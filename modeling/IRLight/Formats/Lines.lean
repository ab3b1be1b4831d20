import Mathlib.Data.List.Basic
import Mathlib.Data.Nat.Init

/-! # Reading a stream line by line, with a cap

A reader that asks for a bounded piece of a line at a time. What it makes of the stream is what its lines say, one after
another. -/

universe u v

namespace Lines

section
variable {α : Type u} [DecidableEq α] (newline : α)

/-- `stream.readline(limit)`: what is read, and what is left. -/
def readline : ℕ → List α → List α × List α
  | 0, rest => ([], rest)
  | _, [] => ([], [])
  | limit + 1, a :: rest =>
    if a = newline then ([a], rest)
    else
      let (line, more) := readline limit rest
      (a :: line, more)

/-- `line.endswith(newline)`. -/
def endsLine (line : List α) : Bool := line.getLast? = some newline

variable {newline} {limit : ℕ} {stream body rest : List α}

theorem readline_append : (readline newline limit stream).1 ++ (readline newline limit stream).2 = stream := by
  induction stream generalizing limit with
  | nil => cases limit <;> rfl
  | cons a stream ih =>
    cases limit with
    | zero => rfl
    | succ limit =>
      rw [readline]
      split
      · rfl
      · exact congrArg (a :: ·) ih

theorem length_read : (readline newline limit stream).1.length + (readline newline limit stream).2.length = stream.length := by
  rw [← List.length_append, readline_append]

theorem length_rest_lt (h : (readline newline limit stream).1 ≠ []) : (readline newline limit stream).2.length < stream.length := by
  have hpos := List.length_pos_of_ne_nil h
  have hlength := @length_read α _ newline limit stream
  omega

/-- A line that fits is read whole, and of a longer one as much as was asked for. -/
theorem readline_line (hbody : newline ∉ body) : readline newline limit (body ++ newline :: rest) =
    if body.length < limit then (body ++ [newline], rest) else (body.take limit, body.drop limit ++ newline :: rest) := by
  induction body generalizing limit with
  | nil =>
    cases limit with
    | zero => rfl
    | succ limit =>
      rw [List.nil_append, readline, if_pos rfl]
      rfl
  | cons a body ih =>
    have hne := List.ne_of_not_mem_cons hbody
    have hbody := List.not_mem_of_not_mem_cons hbody
    cases limit with
    | zero => rfl
    | succ limit =>
      rw [List.cons_append, readline, if_neg (Ne.symm hne), ih hbody, List.length_cons]
      by_cases hfit : body.length < limit
      · rw [if_pos hfit, if_pos (Nat.succ_lt_succ hfit)]
        rfl
      · rw [if_neg hfit, if_neg (by omega)]
        rfl

/-- What follows the last line end is read like a line. -/
theorem readline_tail (hbody : newline ∉ body) : readline newline limit body = (body.take limit, body.drop limit) := by
  induction body generalizing limit with
  | nil => cases limit <;> rfl
  | cons a body ih =>
    have hne := List.ne_of_not_mem_cons hbody
    have hbody := List.not_mem_of_not_mem_cons hbody
    cases limit with
    | zero => rfl
    | succ limit =>
      rw [readline, if_neg (Ne.symm hne), ih hbody]
      rfl

/-! ### The reader -/

variable (newline) (cap : ℕ)

/-- `while line and not line.endswith(newline): line = stream.readline(cap + 1)`, from a piece of a line on. -/
def drain (stream : List α) : List α :=
  let read := readline newline (cap + 1) stream
  if _h : read.1 ≠ [] ∧ !endsLine newline read.1 then drain read.2 else read.2
termination_by stream.length
decreasing_by exact length_rest_lt _h.1

theorem drain_le (stream : List α) : (drain newline cap stream).length ≤ stream.length := by
  induction hlength : stream.length using Nat.strong_induction_on generalizing stream with
  | _ n ih =>
    rw [drain]
    split
    · rename_i h
      have hlt := length_rest_lt h.1
      rw [hlength] at hlt
      exact Nat.le_trans (ih _ hlt _ rfl) (Nat.le_of_lt hlt)
    · have hlength' := @length_read α _ newline (cap + 1) stream
      omega

variable {β : Type v} (short : List α → β) (oversized : β)

/-- The lines of the stream: what `short` says of a line that was read whole, and `oversized` for any other one. -/
def boundedLines (stream : List α) : List β :=
  let read := readline newline (cap + 1) stream
  if _h : read.1 = [] then []
  else if endsLine newline read.1 || read.1.length < cap + 1 then short read.1 :: boundedLines read.2
  else oversized :: boundedLines (drain newline cap read.2)
termination_by stream.length
decreasing_by
  · exact length_rest_lt _h
  · exact Nat.lt_of_le_of_lt (drain_le newline cap _) (length_rest_lt _h)

/-! ### What the lines are -/

/-- The stream is made of lines, and of a tail without a line end. -/
structure Cut (stream : List α) (bodies : List (List α)) (tail : List α) : Prop where
  eq : stream = bodies.flatMap (· ++ [newline]) ++ tail
  bodies : ∀ body ∈ bodies, newline ∉ body
  tail : newline ∉ tail

/-- Its records: the lines with their ends, and the tail if there is one. -/
def records (bodies : List (List α)) (tail : List α) : List (List α) :=
  bodies.map (· ++ [newline]) ++ if tail = [] then [] else [tail]

/-- Every stream is cut into lines in one way. -/
theorem exists_cut (stream : List α) : ∃ bodies tail, Cut newline stream bodies tail := by
  induction stream with
  | nil => exact ⟨[], [], rfl, by simp, List.not_mem_nil⟩
  | cons a stream ih =>
    obtain ⟨bodies, tail, rfl, hbodies, htail⟩ := ih
    by_cases ha : a = newline
    · refine ⟨[] :: bodies, tail, ?_, ?_, htail⟩
      · rw [ha]
        rfl
      · exact List.forall_mem_cons.mpr ⟨List.not_mem_nil, hbodies⟩
    · cases bodies with
      | nil => exact ⟨[], a :: tail, rfl, hbodies, List.not_mem_cons_of_ne_of_not_mem (Ne.symm ha) htail⟩
      | cons body bodies =>
        obtain ⟨hbody, hbodies⟩ := List.forall_mem_cons.mp hbodies
        refine ⟨(a :: body) :: bodies, tail, rfl, List.forall_mem_cons.mpr ⟨?_, hbodies⟩, htail⟩
        exact List.not_mem_cons_of_ne_of_not_mem (Ne.symm ha) hbody

/-- The reader has room for the record: with its end it is within the limit, or without one below it. -/
def WithinCap (record : List α) : Prop := record.length < cap + 1 ∨ endsLine newline record ∧ record.length ≤ cap + 1

instance (record : List α) : Decidable (WithinCap newline cap record) := inferInstanceAs (Decidable (_ ∨ _))

variable {newline cap short oversized} {bodies : List (List α)} {tail : List α}

theorem endsLine_line : endsLine newline (body ++ [newline]) = true := by
  unfold endsLine
  rw [List.getLast?_concat]
  exact decide_eq_true rfl

theorem endsLine_of_notMem (h : newline ∉ body) : endsLine newline body = false :=
  decide_eq_false fun hlast => h (List.mem_of_getLast? hlast)

/-- The rest of a line is skipped, up to its end. -/
theorem drain_line (hbody : newline ∉ body) : drain newline cap (body ++ newline :: rest) = rest := by
  induction hlength : body.length using Nat.strong_induction_on generalizing body with
  | _ n ih =>
    rw [drain, readline_line hbody]
    by_cases hfit : body.length < cap + 1
    · rw [if_pos hfit]
      dsimp only
      rw [endsLine_line, dif_neg (fun h => Bool.noConfusion h.2)]
    · have htake : newline ∉ body.take (cap + 1) := fun h => hbody (List.mem_of_mem_take h)
      have hne : body.take (cap + 1) ≠ [] := List.ne_nil_of_length_pos (by rw [List.length_take]; omega)
      rw [if_neg hfit]
      dsimp only
      rw [dif_pos ⟨hne, by rw [endsLine_of_notMem htake]; rfl⟩]
      exact ih _ (by rw [List.length_drop]; omega) (fun h => hbody (List.mem_of_mem_drop h)) rfl

theorem drain_tail (hbody : newline ∉ body) : drain newline cap body = [] := by
  induction hlength : body.length using Nat.strong_induction_on generalizing body with
  | _ n ih =>
    rw [drain, readline_tail hbody]
    dsimp only
    have htake : newline ∉ body.take (cap + 1) := fun h => hbody (List.mem_of_mem_take h)
    by_cases hne : body.take (cap + 1) ≠ []
    · rw [dif_pos ⟨hne, by rw [endsLine_of_notMem htake]; rfl⟩]
      have hpos := List.length_pos_of_ne_nil hne
      rw [List.length_take] at hpos
      exact ih _ (by rw [List.length_drop]; omega) (fun h => hbody (List.mem_of_mem_drop h)) rfl
    · rw [dif_neg (fun h => hne h.1)]
      have hlength := congrArg List.length (not_not.mp hne)
      rw [List.length_take, List.length_nil] at hlength
      exact List.drop_eq_nil_of_le (by omega)

theorem boundedLines_nil : boundedLines newline cap short oversized [] = [] := by
  have hread : readline newline (cap + 1) [] = ([], []) := rfl
  rw [boundedLines, hread]
  exact dif_pos rfl

/-- **A line gives one item**, and the reader goes on with what follows it. -/
theorem boundedLines_line (hbody : newline ∉ body) : boundedLines newline cap short oversized (body ++ newline :: rest) =
    (if WithinCap newline cap (body ++ [newline]) then short (body ++ [newline]) else oversized) ::
      boundedLines newline cap short oversized rest := by
  have hlength : (body ++ [newline]).length = body.length + 1 := List.length_append
  rw [boundedLines, readline_line hbody]
  by_cases hfit : body.length < cap + 1
  · have hfits : WithinCap newline cap (body ++ [newline]) := .inr ⟨endsLine_line, by omega⟩
    rw [if_pos hfit, if_pos hfits]
    dsimp only
    rw [dif_neg (List.append_ne_nil_of_right_ne_nil body (List.cons_ne_nil newline [])), endsLine_line, Bool.true_or,
      if_pos rfl]
  · have htake : newline ∉ body.take (cap + 1) := fun h => hbody (List.mem_of_mem_take h)
    have hread : (body.take (cap + 1)).length = cap + 1 := List.length_take_of_le (Nat.le_of_not_lt hfit)
    have hfits : ¬WithinCap newline cap (body ++ [newline]) := by
      rintro (h | ⟨-, h⟩)
      · omega
      · omega
    rw [if_neg hfit, if_neg hfits]
    dsimp only
    rw [dif_neg (List.ne_nil_of_length_pos (by rw [hread]; exact Nat.succ_pos cap)), endsLine_of_notMem htake, Bool.false_or,
      hread, if_neg (by simp), drain_line fun h => hbody (List.mem_of_mem_drop h)]

/-- So does a tail. -/
theorem boundedLines_tail (hbody : newline ∉ body) (hne : body ≠ []) :
    boundedLines newline cap short oversized body = [if WithinCap newline cap body then short body else oversized] := by
  have htake : newline ∉ body.take (cap + 1) := fun h => hbody (List.mem_of_mem_take h)
  have hpos := List.length_pos_of_ne_nil hne
  have hsome : body.take (cap + 1) ≠ [] := List.ne_nil_of_length_pos (by rw [List.length_take]; omega)
  rw [boundedLines, readline_tail hbody]
  dsimp only
  rw [dif_neg hsome, endsLine_of_notMem htake, Bool.false_or]
  by_cases hfit : body.length < cap + 1
  · rw [List.take_of_length_le (Nat.le_of_lt hfit), if_pos (decide_eq_true hfit), if_pos (.inl hfit),
      List.drop_eq_nil_of_le (Nat.le_of_lt hfit), boundedLines_nil]
  · have hread : (body.take (cap + 1)).length = cap + 1 := List.length_take_of_le (Nat.le_of_not_lt hfit)
    have hfits : ¬WithinCap newline cap body := by
      rintro (h | ⟨h, -⟩)
      · exact hfit h
      · rw [endsLine_of_notMem hbody] at h
        cases h
    rw [hread, if_neg (by simp), if_neg hfits, drain_tail fun h => hbody (List.mem_of_mem_drop h), boundedLines_nil]

/-- **The reader gives one item for each record.** -/
theorem boundedLines_eq (h : Cut newline stream bodies tail) : boundedLines newline cap short oversized stream =
    (records newline bodies tail).map fun record => if WithinCap newline cap record then short record else oversized := by
  obtain ⟨rfl, hbodies, htail⟩ := h
  induction bodies with
  | nil =>
    unfold records
    by_cases hnil : tail = []
    · rw [if_pos hnil, hnil, List.flatMap_nil, List.append_nil, boundedLines_nil]
      rfl
    · rw [if_neg hnil, List.flatMap_nil, List.nil_append, boundedLines_tail htail hnil]
      rfl
  | cons body bodies ih =>
    obtain ⟨hbody, hbodies⟩ := List.forall_mem_cons.mp hbodies
    rw [List.flatMap_cons, List.append_assoc, List.append_assoc, List.singleton_append, boundedLines_line hbody, ih hbodies]
    rfl

end
end Lines
