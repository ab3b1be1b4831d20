import IRLight.ControlPlane.ClientAddress
import Mathlib.Data.List.DropRight

/-! # The address cannot be chosen by the client

A trusted proxy appends the address it has seen to whatever the client has sent. -/

namespace IRLight

/-! ### Stripping twice -/

theorem dropWhile_isSpace_strip (chars : List Char) :
    let stripped := (chars.reverse.dropWhile isSpace).reverse
    chars.dropWhile isSpace = chars → stripped.dropWhile isSpace = stripped := by
  intro stripped hchars
  obtain ⟨rest, hrest⟩ : stripped <+: chars := by
    rw [← List.reverse_suffix, List.reverse_reverse]
    exact List.dropWhile_suffix _
  cases hstripped : stripped with
  | nil => rfl
  | cons c tail =>
    rw [← hrest, hstripped, List.cons_append] at hchars
    by_cases hc : isSpace c
    · rw [List.dropWhile_cons_of_pos hc] at hchars
      have hlength := (List.dropWhile_suffix (l := tail ++ rest) isSpace).length_le
      rw [hchars, List.length_cons] at hlength
      omega
    · exact List.dropWhile_cons_of_neg hc

/-- A stripped text is stripped. -/
theorem strip_strip (text : String) : strip (strip text) = strip text := by
  have hfront := dropWhile_isSpace_strip (text.toList.dropWhile isSpace) (List.dropWhile_idempotent _ _)
  unfold strip
  rw [String.toList_ofList, hfront, List.reverse_reverse, List.dropWhile_idempotent]

namespace ClientAddress

section
variable {ipAddress : String → Option String} {env hop a peer header : String} {configured : Option (List String)}
  {r : HttpRequest}

theorem normalizedAddress_strip : normalizedAddress ipAddress (strip hop) = normalizedAddress ipAddress hop := by
  unfold normalizedAddress
  rw [strip_strip]

/-- A header to which a hop was appended, after anything at all. -/
def Appended (header hop : String) : Prop := header = hop ∨ ∃ attacker, header = attacker ++ "," ++ hop

/-- The hop is the last one of the header. -/
theorem Appended.splitCommas (h : Appended header hop) (hcomma : ',' ∉ hop.toList) :
    ∃ front, splitCommas header = front ++ [hop] := by
  have hhop : (hop.toList.splitOn ',').map String.ofList = [hop] := by
    rw [List.splitOn_eq_singleton hcomma, List.map_singleton, String.ofList_toList]
  obtain rfl | ⟨attacker, rfl⟩ := h
  · exact ⟨[], hhop⟩
  · refine ⟨ClientAddress.splitCommas attacker, ?_⟩
    unfold ClientAddress.splitCommas
    rw [String.toList_append, String.toList_append, List.append_assoc]
    change ((attacker.toList ++ ',' :: hop.toList).splitOn ',').map String.ofList = _
    rw [List.splitOn_append_cons_self, List.map_append, hhop]

/-- **The address of a client cannot be spoofed.** When the peer is a trusted proxy and has appended a valid hop that is
    not trusted itself, the address is that of the hop, or that of the peer, whatever the client has sent before. When
    the peer is not trusted, the header does not count. -/
theorem client_address_not_spoofed (ipAddress : String → Option String) (env : String) (configured : Option (List String))
    (r : HttpRequest) (peer : String) (hpeer : scopeAddress ipAddress r = some peer) :
    (∀ header hop a, r.forwardedFor = [header] → Appended header hop → ',' ∉ hop.toList →
      normalizedAddress ipAddress hop = some a → a ∉ trustedProxies ipAddress env configured →
        clientAddress ipAddress env configured r = some a ∨ clientAddress ipAddress env configured r = some peer) ∧
    (peer ∉ trustedProxies ipAddress env configured → ∀ headers,
      clientAddress ipAddress env configured { r with forwardedFor := headers } = some peer) := by
  constructor
  · intro header hop a hheader happended hcomma hhop htrusted
    obtain ⟨front, hsplit⟩ := happended.splitCommas hcomma
    unfold clientAddress
    rw [hpeer, Option.bind_eq_bind, Option.bind_some]
    dsimp only
    split
    · exact .inr rfl
    · split
      · exact .inr rfl
      · rename_i forwarded hforwarded
        have hvalue : forwarded = header := by
          unfold forwardedForValue at hforwarded
          rw [hheader] at hforwarded
          dsimp only at hforwarded
          split at hforwarded
          · cases hforwarded
          · exact (Option.some.inj hforwarded).symm
        rw [hvalue, hsplit]
        split
        · exact .inr rfl
        · split
          · exact .inr rfl
          · refine .inl ?_
            have hlast : normalizedAddress ipAddress (strip hop) = some a := normalizedAddress_strip.trans hhop
            simp only [List.map_append, List.map_singleton, List.reverse_append, List.reverse_singleton,
              List.singleton_append, hlast]
            have hid : id (some a) = some a := rfl
            have hfound : decide (a ∉ trustedProxies ipAddress env configured) = true := decide_eq_true htrusted
            rw [List.filterMap_cons_some hid, List.find?_cons, hfound, Option.getD_some]
  · intro htrusted headers
    unfold clientAddress
    have hscope : scopeAddress ipAddress { r with forwardedFor := headers } = some peer := hpeer
    rw [hscope, Option.bind_eq_bind, Option.bind_some]
    exact if_pos htrusted

end

/-! ### Sample -/

/-- Behind one proxy, a client that claims another address. -/
theorem client_address_sample :
    clientAddress some "10.0.0.1" none ⟨some "10.0.0.1", ["1.1.1.1, 2.2.2.2, 203.0.113.9"]⟩ = some "203.0.113.9" ∨
      clientAddress some "10.0.0.1" none ⟨some "10.0.0.1", ["1.1.1.1, 2.2.2.2, 203.0.113.9"]⟩ = some "10.0.0.1" :=
  (client_address_not_spoofed some "10.0.0.1" none ⟨some "10.0.0.1", ["1.1.1.1, 2.2.2.2, 203.0.113.9"]⟩ "10.0.0.1"
    (by decide +kernel)).1 "1.1.1.1, 2.2.2.2, 203.0.113.9" " 203.0.113.9" "203.0.113.9" rfl
    (.inr ⟨"1.1.1.1, 2.2.2.2", by decide +kernel⟩) (by decide +kernel) (by decide +kernel) (by decide +kernel)

end ClientAddress
end IRLight
