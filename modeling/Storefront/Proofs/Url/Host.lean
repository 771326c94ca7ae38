import Storefront.Proofs.Url.Numeric
import Storefront.Url.Reader

/-! # Hosts that are read as they are written

A host that has been read is written in a form that is read as the same host, and nothing in that form ends an authority
or divides it.
-/
namespace Storefront.Url
variable {c : Char} {s rest : List Char} {host : Host}

/-- Characters that neither end an authority nor divide it, and that are no blanks. -/
def isInner (c : Char) : Bool := 0x20 < c.toNat && !endsAuthority true c && c != '@'

def EndsHost (rest : List Char) : Prop := ∀ c ∈ rest.head?, c = ':' ∨ c = '/'

/-- A host that is written as it is read, whatever stands behind it. -/
structure SettledHost (host : Host) : Prop where
  inner : ∀ c ∈ host.toText, isInner c = true
  nonempty : host.toText ≠ []
  text : ∀ rest, EndsHost rest → hostText true false (host.toText ++ rest) = host.toText
  read : readHost host.toText = .ok host

theorem hostText_of_endsHost (h : EndsHost rest) : hostText true false rest = [] := by
  cases rest with
  | nil => rfl
  | cons c rest =>
    rcases h c rfl with rfl | rfl <;> simp [hostText, endsAuthority]

theorem isInner_of_isForbidden (h : isForbidden c = false) : isInner c = true ∧ c ≠ ':' ∧ c ≠ '[' := by
  have hlarge : 0x20 < c.toNat := by
    simp only [isForbidden, Bool.or_eq_false_iff, decide_eq_false_iff_not] at h
    omega
  have hends : endsAuthority true c = false := by
    simp [endsAuthority, ne_of_class h (d := '/') rfl, ne_of_class h (d := '?') rfl, ne_of_class h (d := '#') rfl,
      ne_of_class h (d := '\\') rfl]
  have hat : (c != '@') = true := bne_iff_ne.mpr (ne_of_class h rfl)
  exact ⟨by simp [isInner, hends, hat, hlarge], ne_of_class h rfl, ne_of_class h rfl⟩

theorem hostText_cons (hinner : isInner c = true) (hcolon : c ≠ ':') (hbracket : c ≠ '[') (s : List Char) :
    hostText true false (c :: s) = c :: hostText true false s := by
  simp only [isInner, Bool.and_eq_true, Bool.not_eq_true'] at hinner
  simp [hostText, hcolon, hbracket, hinner]

theorem settledHost_of_name (h : SettledName s) (hne : s ≠ []) (htext : host.toText = s) (hread : readHost s = .ok host) :
    SettledHost host := by
  have hplain : ∀ c ∈ s, isInner c = true ∧ c ≠ ':' ∧ c ≠ '[' := fun c hc => isInner_of_isForbidden (h.chars c hc).2.2
  refine ⟨?_, by rwa [htext], ?_, by rwa [htext]⟩
  · rw [htext]
    exact fun c hc => (hplain c hc).1
  · intro rest hrest
    rw [htext]
    clear htext hread h hne
    induction s with
    | nil => exact hostText_of_endsHost hrest
    | cons c s ih =>
      obtain ⟨⟨hinner, hcolon, hbracket⟩, hs⟩ := List.forall_mem_cons.mp hplain
      rw [List.cons_append, hostText_cons hinner hcolon hbracket, ih hs]

theorem hostText_inside (hs : ∀ c ∈ s, endsAuthority true c = false ∧ c ≠ '[' ∧ c ≠ ']') (hrest : EndsHost rest) :
    hostText true true (s ++ ']' :: rest) = s ++ [']'] := by
  induction s with
  | nil => simp [hostText, endsAuthority, hostText_of_endsHost hrest]
  | cons c s ih =>
    obtain ⟨⟨hends, hopen, hclose⟩, hs⟩ := List.forall_mem_cons.mp hs
    simp [hostText, hends, hopen, hclose, ih hs]

theorem mem_v6Text {groups : List Nat} (h : c ∈ v6Text groups) : c ∈ ':' :: groupChars := by
  rw [v6Text] at h
  split at h
  · simp only [List.mem_append] at h
    rcases h with (h | h) | h
    · exact mem_groupsText _ c h
    · have hcolons : ∀ c ∈ [':', ':'], c ∈ ':' :: groupChars := List.forall_iff_forall_mem.mp (by decide)
      exact hcolons c h
    · exact mem_groupsText _ c h
  · exact mem_groupsText _ c h

theorem settledHost_v6 {groups : List Nat} (hlength : groups.length = 8) (h : ∀ g ∈ groups, g < 65536) :
    SettledHost (.v6 groups) := by
  have hchars : ∀ c ∈ ':' :: groupChars, isInner c = true ∧ endsAuthority true c = false ∧ c ≠ '[' ∧ c ≠ ']' :=
    List.forall_iff_forall_mem.mp (by decide)
  have htext : (Host.v6 groups).toText = '[' :: (v6Text groups ++ [']']) := rfl
  refine ⟨?_, by simp [htext], ?_, ?_⟩
  · rw [htext]
    intro c hc
    simp only [List.mem_cons, List.mem_append, List.not_mem_nil, or_false] at hc
    rcases hc with rfl | hc | rfl
    · decide
    · exact (hchars c (mem_v6Text hc)).1
    · decide
  · intro rest hrest
    have hinside := hostText_inside (s := v6Text groups) (fun c hc => (hchars c (mem_v6Text hc)).2) hrest
    rw [htext, List.cons_append, List.append_assoc, List.singleton_append]
    simp [hostText, endsAuthority, hinside]
  · rw [htext, readHost, readBracketed]
    simp [readV6_v6Text hlength h]

theorem readHost_of_settledName (h : SettledName s) (hne : s ≠ []) :
    readHost s = if endsInNumber s then match readV4 s with
        | some a => .ok (.v4 a)
        | none => .error .invalidV4
      else .ok (.name s) := by
  obtain ⟨c, rest, rfl⟩ := List.exists_cons_of_ne_nil hne
  have hbracket : c ≠ '[' := (isInner_of_isForbidden (h.chars c List.mem_cons_self).2.2).2.2
  have hread : (decode? (c :: rest)).bind name? = some (c :: rest) := by rw [h.decode?, Option.bind_some, h.name?]
  rw [readHost]
  · simp only [hread, List.isEmpty_cons]
    rfl
  · simpa using hbracket

theorem settledHost_v4 {a : Nat} (h : a < pow2 32) : SettledHost (.v4 a) := by
  have hname := settledName_v4 a
  have htext : (Host.v4 a).toText ≠ [] := by
    intro hnil
    have hnumber := endsInNumber_v4 a
    rw [hnil] at hnumber
    cases hnumber
  refine settledHost_of_name hname htext rfl ?_
  simp [readHost_of_settledName hname htext, endsInNumber_v4, readV4_toText h]

theorem settledHost_of_readHost (h : readHost s = .ok host) : SettledHost host := by
  unfold readHost at h
  split at h
  · rw [readBracketed] at h
    split at h
    · split at h
      · next groups hgroups =>
        cases h
        obtain ⟨hlength, hsmall⟩ := groups_of_readV6 hgroups
        exact settledHost_v6 hlength hsmall
      · cases h
    · cases h
  · split at h
    · cases h
    · next name hname =>
      obtain ⟨decoded, -, hname⟩ := Option.bind_eq_some_iff.mp hname
      have hsettled := settledName_of_name? hname
      split at h
      · cases h
      · next hne =>
        rw [List.isEmpty_iff] at hne
        have hread := readHost_of_settledName hsettled hne
        split at h
        · split at h
          · next a ha =>
            cases h
            exact settledHost_v4 (lt_of_readV4 ha)
          · cases h
        · next hnumber =>
          cases h
          exact settledHost_of_name hsettled hne rfl (by rw [hread, if_neg hnumber])

end Storefront.Url
