import IRLight.Destinations.SrtStderr

/-! # Markers in the output of an SRT probe

Cutting the output into chunks hides no marker, as long as the chunk that the marker ends in is within the budget. -/

namespace IRLight.Destinations.SrtStderr
open SlidingWindow

variable {before : Bytes} {chunks : List Bytes} {total : ℕ}

/-- The tail that the loop keeps is all of what was read that matters. -/
theorem readLoop_connected (htotal : total = before.length) (hbefore : ¬Marked before) (h : AsRequested total chunks) :
    readLoop total (lastOf maxTail before) chunks = .connected ↔ Marked (before ++ (searched total chunks).flatten) := by
  induction chunks generalizing total before with
  | nil =>
    unfold searched
    rw [List.flatten_nil, List.append_nil]
    exact iff_of_false (by intro hfalse; cases hfalse) hbefore
  | cons chunk chunks ih =>
    obtain ⟨hchunk, -, hlater⟩ := h
    unfold readLoop searched
    rw [if_neg hchunk]
    by_cases hmany : maxBytes < total + chunk.length
    · rw [if_pos hmany, if_pos hmany, List.flatten_nil, List.append_nil]
      exact iff_of_false (by intro hfalse; cases hfalse) hbefore
    · rw [if_neg hmany, if_neg hmany, List.flatten_cons, ← List.append_assoc]
      by_cases hmarked : Marked (before ++ chunk)
      · rw [if_pos ((marked_window hbefore).mpr hmarked)]
        exact iff_of_true rfl (hmarked.mono (List.prefix_append _ _).isInfix)
      · have htail : maxTail ≠ 0 := by
          rw [maxTail_eq]
          decide
        have hlength : total + chunk.length = (before ++ chunk).length := by
          rw [List.length_append, htotal]
        rw [if_neg (mt (marked_window hbefore).mp hmarked), if_pos htail, lastOf_append]
        exact ih hlength hmarked (hlater (not_lt.mp hmany))

theorem flatten_searched : (searched total chunks).flatten <+: chunks.flatten := by
  induction chunks generalizing total with
  | nil => exact List.prefix_rfl
  | cons chunk chunks ih =>
    unfold searched
    split
    · exact List.nil_prefix
    · rw [List.flatten_cons, List.flatten_cons]
      exact (List.prefix_append_right_inj chunk).mpr ih

theorem length_searched (h : total ≤ maxBytes) : total + (searched total chunks).flatten.length ≤ maxBytes := by
  induction chunks generalizing total with
  | nil => exact h
  | cons chunk chunks ih =>
    unfold searched
    split
    · exact h
    · rename_i hmany
      rw [List.flatten_cons, List.length_append, ← Nat.add_assoc]
      exact ih (not_lt.mp hmany)

/-- Chunks within the budget are searched, and then what follows them. -/
theorem searched_append {m : List Bytes} (h : total + chunks.flatten.length ≤ maxBytes) :
    searched total (chunks ++ m) = chunks ++ searched (total + chunks.flatten.length) m := by
  induction chunks generalizing total with
  | nil => rfl
  | cons chunk chunks ih =>
    rw [List.flatten_cons, List.length_append, ← Nat.add_assoc] at h ⊢
    rw [List.cons_append, searched, if_neg (by omega), ih h]
    rfl

/-- A short stream is searched whole. -/
theorem searched_of_le (h : total + chunks.flatten.length ≤ maxBytes) : searched total chunks = chunks := by
  have happend := searched_append (m := []) h
  rw [List.append_nil] at happend
  rw [happend, searched, List.append_nil]

/-- What is not searched is in the last chunk: all but the last bytes of the budget are searched. -/
theorem take_prefix_searched (h : AsRequested total chunks) :
    chunks.flatten.take (maxBytes + 1 - readChunkBytes - total) <+: (searched total chunks).flatten := by
  induction chunks generalizing total with
  | nil =>
    rw [List.flatten_nil, List.take_nil]
    exact List.nil_prefix
  | cons chunk chunks ih =>
    obtain ⟨-, hsize, hlater⟩ := h
    have hchunk : chunk.length ≤ readChunkBytes := hsize.trans (Nat.min_le_left _ _)
    unfold searched
    by_cases hmany : maxBytes < total + chunk.length
    · have hnone : maxBytes + 1 - readChunkBytes - total = 0 := by omega
      rw [if_pos hmany, hnone]
      exact List.nil_prefix
    · have hrest : maxBytes + 1 - readChunkBytes - total - chunk.length =
          maxBytes + 1 - readChunkBytes - (total + chunk.length) := Nat.sub_sub _ _ _
      rw [if_neg hmany, List.flatten_cons, List.flatten_cons, List.take_append, hrest]
      by_cases hends : chunk.length ≤ maxBytes + 1 - readChunkBytes - total
      · rw [List.take_of_length_le hends]
        exact (List.prefix_append_right_inj chunk).mpr (ih (hlater (not_lt.mp hmany)))
      · have hnone : maxBytes + 1 - readChunkBytes - (total + chunk.length) = 0 := by omega
        rw [hnone, List.take_zero, List.append_nil]
        exact (List.take_prefix _ _).trans (List.prefix_append _ _)

theorem readSrtStderrEvent_connected (h : AsRequested 0 chunks) :
    readSrtStderrEvent chunks = .connected ↔ Marked (searched 0 chunks).flatten := by
  have hnone : ¬Marked [] := by decide
  exact @readLoop_connected [] chunks 0 rfl hnone h

/-- **The reader finds a marker if and only if it ends within the chunks that fit into the budget.** So it finds every marker
of a stream within the budget, however it is cut, and of any other stream those markers that end before the last chunk that may
go over the budget; and it finds no marker that ends after the budget. -/
theorem marker_found_iff (chunks : List Bytes) (h : AsRequested 0 chunks) :
    (readSrtStderrEvent chunks = .connected ↔ Marked (searched 0 chunks).flatten) ∧
    (chunks.flatten.length ≤ maxBytes → (readSrtStderrEvent chunks = .connected ↔ Marked chunks.flatten)) ∧
    (Marked (chunks.flatten.take (maxBytes + 1 - readChunkBytes)) → readSrtStderrEvent chunks = .connected) ∧
    (readSrtStderrEvent chunks = .connected → Marked (chunks.flatten.take maxBytes)) := by
  have hfound := readSrtStderrEvent_connected h
  refine ⟨hfound, fun hshort => ?_, fun hmarked => ?_, fun hconnected => ?_⟩
  · rw [hfound, searched_of_le (by rw [Nat.zero_add]; exact hshort)]
  · exact hfound.mpr (hmarked.mono (take_prefix_searched h).isInfix)
  · refine (hfound.mp hconnected).mono (List.IsPrefix.isInfix ?_)
    have hlength : 0 + (searched 0 chunks).flatten.length ≤ maxBytes := length_searched (Nat.zero_le _)
    rw [Nat.zero_add] at hlength
    exact List.prefix_take_iff.mpr ⟨flatten_searched, hlength⟩

/-- The message of a connection, in two reads. -/
theorem marker_found_split : (readSrtStderrEvent [ascii "Target conn", ascii "ected (caller)"] = .connected ↔
      Marked (searched 0 [ascii "Target conn", ascii "ected (caller)"]).flatten) ∧
    ([ascii "Target conn", ascii "ected (caller)"].flatten.length ≤ maxBytes →
      (readSrtStderrEvent [ascii "Target conn", ascii "ected (caller)"] = .connected ↔
        Marked [ascii "Target conn", ascii "ected (caller)"].flatten)) ∧
    (Marked ([ascii "Target conn", ascii "ected (caller)"].flatten.take (maxBytes + 1 - readChunkBytes)) →
      readSrtStderrEvent [ascii "Target conn", ascii "ected (caller)"] = .connected) ∧
    (readSrtStderrEvent [ascii "Target conn", ascii "ected (caller)"] = .connected →
      Marked ([ascii "Target conn", ascii "ected (caller)"].flatten.take maxBytes)) :=
  marker_found_iff _ ⟨by decide, by decide, fun _ => ⟨by decide, by decide, fun _ => trivial⟩⟩

/-! ### A marker in the chunk that goes over the budget -/

theorem asRequested_append {m : List Bytes} (hall : ∀ chunk ∈ chunks, chunk ≠ [] ∧ chunk.length ≤ readChunkBytes)
    (hfit : total + chunks.flatten.length ≤ maxBytes) (hm : AsRequested (total + chunks.flatten.length) m) :
    AsRequested total (chunks ++ m) := by
  induction chunks generalizing total with
  | nil => exact hm
  | cons chunk chunks ih =>
    obtain ⟨⟨hchunk, hsize⟩, hall⟩ := List.forall_mem_cons.mp hall
    rw [List.flatten_cons, List.length_append, ← Nat.add_assoc] at hfit hm
    refine ⟨hchunk, le_min hsize (by omega), fun _ => ih hall hfit hm⟩

/-- Output without a marker, in chunks as large as the reader asks for, and one byte more. -/
def noise : List Bytes := List.replicate 15 (List.replicate 4096 0x78) ++ [[0x78]]

def message : Bytes := ascii "SRT target connected"

/-- What comes with the message: all in all one byte more than the budget. -/
def after : Bytes := List.replicate (4096 - 20) 0x78

theorem noise_flatten : noise.flatten = List.replicate 61441 0x78 := by
  unfold noise
  rw [List.flatten_append, List.flatten_replicate_replicate, List.flatten_singleton]
  exact List.replicate_append_replicate (m := 1)

theorem not_marked_replicate {n : ℕ} : ¬Marked (List.replicate n 0x78) := by
  rintro ⟨marker, hmem, hmarker⟩
  have hall : connectedMarkers.all (fun m => m.any (· ≠ 0x78)) = true := by decide
  obtain ⟨b, hb, hne⟩ := List.any_eq_true.mp (List.all_eq_true.mp hall marker hmem)
  exact of_decide_eq_true hne (List.eq_of_mem_replicate (hmarker.subset hb))

theorem noise_chunks : ∀ chunk ∈ noise, chunk ≠ [] ∧ chunk.length ≤ readChunkBytes := by
  intro chunk hchunk
  unfold noise at hchunk
  rcases List.mem_append.mp hchunk with hchunk | hchunk
  · obtain rfl := List.eq_of_mem_replicate hchunk
    rw [List.length_replicate]
    exact ⟨List.ne_nil_of_length_pos (by rw [List.length_replicate]; decide), le_rfl⟩
  · obtain rfl := List.mem_singleton.mp hchunk
    exact ⟨List.cons_ne_nil _ _, by decide⟩

/-- Read at once with what follows it, the message is missed; read by itself, it is found. -/
theorem marker_missed : (noise ++ [message ++ after]).flatten = (noise ++ [message, after]).flatten ∧
    AsRequested 0 (noise ++ [message ++ after]) ∧ AsRequested 0 (noise ++ [message, after]) ∧
    Marked ((noise ++ [message ++ after]).flatten.take maxBytes) ∧
    readSrtStderrEvent (noise ++ [message ++ after]) ≠ .connected ∧
    readSrtStderrEvent (noise ++ [message, after]) = .connected := by
  have hlength : 0 + noise.flatten.length = 61441 := by
    rw [noise_flatten, List.length_replicate]
  have hmessage : message.length = 20 := by decide
  have hafter : after.length = 4076 := List.length_replicate
  have hfit : 0 + noise.flatten.length ≤ maxBytes := by
    rw [hlength]
    decide
  have hmarked : Marked message := by decide
  have hrequested : AsRequested 0 (noise ++ [message ++ after]) := by
    refine asRequested_append noise_chunks hfit ⟨List.ne_nil_of_length_pos ?_, ?_, fun _ => trivial⟩
    · rw [List.length_append, hmessage]
      omega
    · rw [hlength, List.length_append, hmessage, hafter]
      decide
  have hrequested' : AsRequested 0 (noise ++ [message, after]) := by
    refine asRequested_append noise_chunks hfit ⟨List.ne_nil_of_length_pos ?_, ?_, fun _ =>
      ⟨List.ne_nil_of_length_pos ?_, ?_, fun _ => trivial⟩⟩
    · rw [hmessage]
      decide
    · rw [hlength, hmessage]
      decide
    · rw [hafter]
      decide
    · rw [hlength, hmessage, hafter]
      decide
  refine ⟨?_, hrequested, hrequested', ?_, ?_, ?_⟩
  · rw [List.flatten_append, List.flatten_append]
    rfl
  · have hnoise : noise.flatten.length = 61441 := (Nat.zero_add _).symm.trans hlength
    have hbefore : noise.flatten.length ≤ maxBytes := hnoise.le.trans (by decide)
    have hinside : message.length ≤ maxBytes - noise.flatten.length := by
      rw [hnoise, hmessage]
      decide
    refine hmarked.mono ⟨noise.flatten, after.take (maxBytes - noise.flatten.length - message.length), ?_⟩
    rw [List.flatten_append, List.flatten_singleton, List.take_append, List.take_append, List.take_of_length_le hbefore,
      List.take_of_length_le hinside, List.append_assoc]
  · rw [Ne, readSrtStderrEvent_connected hrequested, searched_append hfit, hlength, searched, if_pos (by rw [List.length_append, hmessage, hafter]; decide),
      List.append_nil, noise_flatten]
    exact not_marked_replicate
  · rw [readSrtStderrEvent_connected hrequested', searched_append hfit, hlength, searched, if_neg (by rw [hmessage]; decide)]
    refine hmarked.mono ⟨noise.flatten, (searched (61441 + message.length) [after]).flatten, ?_⟩
    rw [List.flatten_append, List.flatten_cons, List.append_assoc]

end IRLight.Destinations.SrtStderr
