import IRLight.ControlPlane.BodyLimit

/-! # What the application sees of the body

A body that is complete reaches the application as a whole, or not at all. A part of one is never handed on as if it were
complete. -/

namespace IRLight.BodyLimit

section
variable {limit : ℕ} {buffered body chunk tail part : Bytes} {messages rest : List Message} {b : Body} {scope : Scope}

/-! ### Uploads -/

/-- The messages bring a body to its end, and others come after it. -/
inductive Uploads : List Message → Bytes → List Message → Prop
  | last {b : Body} {chunk : Bytes} {rest : List Message} (hchunk : b.chunk? = some chunk) :
      Uploads (.request b false :: rest) chunk rest
  | more {b : Body} {chunk tail : Bytes} {messages rest : List Message} (hchunk : b.chunk? = some chunk)
      (htail : Uploads messages tail rest) : Uploads (.request b true :: messages) (chunk ++ tail) rest
  | other {tail : Bytes} {messages rest : List Message} (htail : Uploads messages tail rest) :
      Uploads (.other :: messages) tail rest

/-- The client disconnects after a part of a body. -/
inductive Aborts : List Message → Bytes → List Message → Prop
  | disconnect {rest : List Message} : Aborts (.disconnect :: rest) [] rest
  | more {b : Body} {chunk tail : Bytes} {messages rest : List Message} (hchunk : b.chunk? = some chunk)
      (htail : Aborts messages tail rest) : Aborts (.request b true :: messages) (chunk ++ tail) rest
  | other {tail : Bytes} {messages rest : List Message} (htail : Aborts messages tail rest) :
      Aborts (.other :: messages) tail rest

/-- One chunk of the body, as the loop takes it. -/
theorem readBody_request {moreBody : Bool} (hchunk : b.chunk? = some chunk) (hbuffered : buffered.length ≤ limit) :
    readBody limit buffered (.request b moreBody :: messages) =
      if (buffered ++ chunk).length ≤ limit then
        if moreBody then readBody limit (buffered ++ chunk) messages else .over (buffered ++ chunk) false messages
      else .tooLarge := by
  rw [readBody, hchunk, List.length_append]
  dsimp only
  by_cases hlarge : limit - buffered.length < chunk.length
  · have hnot : ¬buffered.length + chunk.length ≤ limit := by omega
    rw [if_pos hlarge, if_neg hnot]
  · have hfits : buffered.length + chunk.length ≤ limit := by omega
    rw [if_neg hlarge, if_pos hfits]

/-- The loop reads a body to its end, unless it is too large. -/
theorem readBody_of_uploads (h : Uploads messages body rest) (hbuffered : buffered.length ≤ limit) :
    readBody limit buffered messages =
      if (buffered ++ body).length ≤ limit then .over (buffered ++ body) false rest else .tooLarge := by
  induction h generalizing buffered with
  | last hchunk => exact readBody_request hchunk hbuffered
  | @more b chunk tail messages rest hchunk _ ih =>
    rw [readBody_request hchunk hbuffered, ← List.append_assoc, if_pos rfl]
    split
    · rename_i hfits
      exact ih hfits
    · rename_i hlarge
      rw [List.length_append] at hlarge
      rw [if_neg (by simp only [List.length_append]; omega)]
  | other _ ih => exact ih hbuffered

/-- The loop reads a part of a body until the client is gone, unless it is too large. -/
theorem readBody_of_aborts (h : Aborts messages part rest) (hbuffered : buffered.length ≤ limit) :
    readBody limit buffered messages =
      if (buffered ++ part).length ≤ limit then .over (buffered ++ part) true rest else .tooLarge := by
  induction h generalizing buffered with
  | disconnect =>
    rw [List.append_nil, if_pos hbuffered]
    rfl
  | @more b chunk tail messages rest hchunk _ ih =>
    rw [readBody_request hchunk hbuffered, ← List.append_assoc, if_pos rfl]
    split
    · rename_i hfits
      exact ih hfits
    · rename_i hlarge
      rw [List.length_append] at hlarge
      rw [if_neg (by simp only [List.length_append]; omega)]
  | other _ ih => exact ih hbuffered

/-! ### The declared length -/

/-- No length that the headers declare, and that can be read, is above the limit. -/
def DeclaresAtMost (scope : Scope) (limit : ℕ) : Prop :=
  ∀ header ∈ scope.headers, lowerBytes header.1 = contentLength → ∀ n, intOfBytes header.2 = some n → n ≤ limit

theorem declaredBodyExceedsLimit_eq_false : declaredBodyExceedsLimit scope limit = false ↔ DeclaresAtMost scope limit := by
  unfold declaredBodyExceedsLimit DeclaresAtMost
  rw [List.any_eq_false]
  refine forall₂_congr fun header _ => ?_
  rw [Bool.and_eq_true, not_and, decide_eq_true_eq]
  refine imp_congr_right fun _ => ?_
  cases intOfBytes header.2 with
  | none => simp
  | some n => simp

variable {upper : String → String} {m : UserEventBodyLimitMiddleware}

/-- On the limited route, the middleware reads the body unless the declared length is too large. -/
theorem call_of_post (m : UserEventBodyLimitMiddleware) (messages : List Message) (hpost : isUserEventPost upper scope) : (m.call upper scope messages = .refused requestTooLarge ∧
      ¬DeclaresAtMost scope m.maxRequestBytes) ∨
    (DeclaresAtMost scope m.maxRequestBytes ∧ m.call upper scope messages =
      match readBody m.maxRequestBytes [] messages with
      | .waiting => .waiting
      | .tooLarge => .refused requestTooLarge
      | .over buffered disconnected rest => .called (bufferedReceive buffered disconnected rest)) := by
  unfold UserEventBodyLimitMiddleware.call
  rw [hpost, if_neg (by decide), ← declaredBodyExceedsLimit_eq_false]
  cases declaredBodyExceedsLimit scope m.maxRequestBytes with
  | true => exact .inl ⟨if_pos rfl, by decide⟩
  | false => exact .inr ⟨rfl, if_neg (by decide)⟩

/-- **The limit on the body.** On the limited route, a complete body is handed to the application exactly if no length that
    the headers declare and that can be read is above the limit, and the body itself is not. The application then
    receives all the bytes at once, with no more to follow. Otherwise the client gets the response 413. When the client
    disconnects first, what the application may receive is marked as a part, and the disconnect follows. -/
theorem body_limit (upper : String → String) (m : UserEventBodyLimitMiddleware) (scope : Scope) (messages : List Message)
    (hpost : isUserEventPost upper scope) :
    (∀ body rest, Uploads messages body rest →
      (m.call upper scope messages = .called (.request (.bytes body) false :: rest) ↔
        DeclaresAtMost scope m.maxRequestBytes ∧ body.length ≤ m.maxRequestBytes) ∧
      (m.call upper scope messages = .called (.request (.bytes body) false :: rest) ∨
        m.call upper scope messages = .refused requestTooLarge)) ∧
    ∀ part rest, Aborts messages part rest → ∀ received, m.call upper scope messages = .called received →
      received = .request (.bytes part) true :: .disconnect :: rest := by
  constructor
  · intro body rest huploads
    have hread : readBody m.maxRequestBytes [] messages = _ := readBody_of_uploads huploads (Nat.zero_le _)
    rw [List.nil_append] at hread
    rcases call_of_post m messages hpost with ⟨hcall, hlarge⟩ | ⟨hdeclares, hcall⟩
    · rw [hcall]
      exact ⟨iff_of_false (fun h => by cases h) fun h => hlarge h.1, .inr rfl⟩
    · by_cases hfits : body.length ≤ m.maxRequestBytes
      · rw [hcall, hread, if_pos hfits]
        exact ⟨iff_of_true rfl ⟨hdeclares, hfits⟩, .inl rfl⟩
      · rw [hcall, hread, if_neg hfits]
        exact ⟨iff_of_false (fun h => by cases h) fun h => hfits h.2, .inr rfl⟩
  · intro part rest haborts received hreceived
    have hread : readBody m.maxRequestBytes [] messages = _ := readBody_of_aborts haborts (Nat.zero_le _)
    rw [List.nil_append] at hread
    rcases call_of_post m messages hpost with ⟨hcall, -⟩ | ⟨-, hcall⟩
    · rw [hcall] at hreceived
      cases hreceived
    · by_cases hfits : part.length ≤ m.maxRequestBytes
      · rw [hcall, hread, if_pos hfits] at hreceived
        exact (Outcome.called.inj hreceived).symm
      · rw [hcall, hread, if_neg hfits] at hreceived
        cases hreceived

end

/-! ### Sample -/

namespace Sample

def middleware : UserEventBodyLimitMiddleware := ⟨65536, by decide⟩

/-- An event of a user, with this declared length. -/
def post (declared : Bytes) : Scope := ⟨"http", "POST", "/v1/sessions/s/events", [(contentLength, declared)]⟩

def upload : List Message := [.request (.bytes [0x7B]) true, .request .absent true, .request (.bytes [0x7D]) false]

theorem uploads_upload : Uploads upload [0x7B, 0x7D] [] := by
  have hlast : Uploads [.request (.bytes [0x7D]) false] [0x7D] [] := .last rfl
  have hempty : Uploads [.request .absent true, .request (.bytes [0x7D]) false] ([] ++ [0x7D]) [] := .more rfl hlast
  have hupload : Uploads upload ([0x7B] ++ [0x7D]) [] := .more rfl hempty
  exact hupload

end Sample

open Sample in
theorem body_limit_sample :
    middleware.call id (post [0x32]) upload = .called [.request (.bytes [0x7B, 0x7D]) false] := by
  have hdeclares : DeclaresAtMost (post [0x32]) middleware.maxRequestBytes :=
    declaredBodyExceedsLimit_eq_false.mp (by decide)
  exact ((body_limit id middleware (post [0x32]) upload (by decide)).1 _ _ uploads_upload).1.mpr ⟨hdeclares, by decide⟩

/-! ### A length that cannot be read -/

theorem decimalDigits_replicate (n : ℕ) :
    decimalDigits (List.replicate (n + 1) 0x39) = some (List.replicate (n + 1) 9) := by
  induction n with
  | zero => rfl
  | succ n ih =>
    have hstep (rest : Bytes) : decimalDigits (0x39 :: 0x39 :: rest) =
        (decimalDigits (0x39 :: rest)).bind fun digits => some (9 :: digits) := rfl
    rw [List.replicate_succ, List.replicate_succ, hstep, ← List.replicate_succ, ih]
    rfl

theorem decimalValue_replicate (n : ℕ) : decimalValue (List.replicate n 9) + 1 = 10 ^ n := by
  induction n with
  | zero => rfl
  | succ n ih =>
    unfold decimalValue at ih ⊢
    rw [List.replicate_succ', List.foldl_append, List.foldl_cons, List.foldl_nil, Nat.pow_succ, ← ih]
    omega

theorem le_decimalValue_replicate {n : ℕ} (h : 5 ≤ n) : 10 ^ 5 ≤ decimalValue (List.replicate n 9) + 1 := by
  rw [decimalValue_replicate]
  exact Nat.pow_le_pow_right (by decide) h

theorem stripBytes_replicate (n : ℕ) : stripBytes (List.replicate n 0x39) = List.replicate n 0x39 := by
  have hdrop : (List.replicate n (0x39 : UInt8)).dropWhile isAsciiSpace = List.replicate n 0x39 := by
    cases n with
    | zero => rfl
    | succ n => exact List.dropWhile_cons_of_neg (by decide)
  unfold stripBytes
  rw [hdrop, List.reverse_replicate, hdrop, List.reverse_replicate]

/-- `int` reads no number from so many digits. -/
theorem intOfBytes_replicate {n : ℕ} (h : maxStrDigits ≤ n) : intOfBytes (List.replicate (n + 1) 0x39) = none := by
  have hnatural : naturalOfBytes (List.replicate (n + 1) 0x39) = none := by
    unfold naturalOfBytes
    rw [decimalDigits_replicate, Option.bind_eq_bind, Option.bind_some, List.length_replicate]
    exact if_pos (Nat.lt_succ_of_le h)
  unfold intOfBytes
  rw [stripBytes_replicate]
  split
  · rename_i hsign
    exact absurd (List.cons.inj hsign).1 (by decide)
  · rename_i hsign
    exact absurd (List.cons.inj hsign).1 (by decide)
  · rw [hnatural]
    rfl

open Sample in
/-- A declared length of 4301 digits is above the limit, and the application is called all the same. -/
theorem long_content_length_is_ignored :
    decimalDigits (List.replicate 4301 0x39) = some (List.replicate 4301 9) ∧
      middleware.maxRequestBytes < decimalValue (List.replicate 4301 9) ∧
        middleware.call id (post (List.replicate 4301 0x39)) upload = .called [.request (.bytes [0x7B, 0x7D]) false] := by
  have hvalue := le_decimalValue_replicate (show 5 ≤ 4301 by decide)
  have hnone : intOfBytes (List.replicate 4301 0x39) = none := intOfBytes_replicate le_rfl
  refine ⟨decimalDigits_replicate 4300, ?_, ?_⟩
  · change 65536 < _
    omega
  · have hdeclares : declaredBodyExceedsLimit (post (List.replicate 4301 0x39)) middleware.maxRequestBytes = false := by
      unfold declaredBodyExceedsLimit post
      rw [List.any_cons, List.any_nil]
      dsimp only
      rw [hnone, Option.any_none, Bool.and_false, Bool.or_false]
    unfold UserEventBodyLimitMiddleware.call
    rw [hdeclares]
    rfl

end IRLight.BodyLimit
