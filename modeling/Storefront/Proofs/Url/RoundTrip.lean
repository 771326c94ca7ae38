import Storefront.Proofs.Text.Delimiters
import Storefront.Proofs.Url.Host
import Storefront.Proofs.Url.Rest

/-! # Addresses that are read as they are written

The user, the password and the port of an authority that has been read are written in the form that is read as themselves,
and so is its host. A web address that has been read is read back from its own text. What is read of other texts on the
same host depends only on what stands behind the authority.
-/
namespace Storefront.Url

section Authorities
variable {scheme s rest after user password : List Char} {a : Authority} {host : Host} {port : Option Nat} {u : Url} {n : Nat}

def readAfterHost (scheme rest : List Char) : Except Fault (Option Nat × List Char) :=
  match rest with
  | ':' :: digits => readPort scheme digits
  | _ => .ok (none, rest)

theorem readAfterHost_cons {c : Char} (hc : c ≠ ':') : readAfterHost scheme (c :: rest) = .ok (none, c :: rest) := by
  simp [readAfterHost, hc]

/-- An authority that is written as it is read. -/
structure SettledAuthority (scheme : List Char) (a : Authority) : Prop where
  user : ∀ c ∈ a.user, inUser c = false
  password : ∀ c ∈ a.password, inUser c = false
  host : SettledHost a.host
  port : ∀ n ∈ a.port, n ≤ 65535 ∧ some n ≠ defaultPort? scheme

theorem SettledHost.ne_empty (h : SettledHost host) : host ≠ .name [] := by
  rintro rfl
  exact h.nonempty rfl

/-- An authority with a host is its user and password, its host and its port, one behind the other. -/
theorem readAuthority_eq (hscheme : isSpecial scheme = true) (s : List Char) :
    readAuthority scheme s = (readUser true s).bind fun parts =>
      (readHost (hostText true false parts.2.2)).bind fun host =>
        (readAfterHost scheme (parts.2.2.drop (hostText true false parts.2.2).length)).map fun rest =>
          readRest scheme ⟨parts.1, parts.2.1, host, rest.1⟩ rest.2 := by
  rw [readAuthority]
  simp only [bind, Except.bind, hscheme]
  cases huser : readUser true s with
  | error e => rfl
  | ok parts =>
    obtain ⟨user, password, rest⟩ := parts
    cases hhost : readHost (hostText true false rest) with
    | error e =>
      by_cases htext : hostText true false rest = []
      · have hempty : readHost [] = .error .emptyHost := rfl
        rw [htext, hempty] at hhost
        cases hhost
        simp [htext, hempty]
      · simp [hhost, htext]
    | ok host =>
      have hne := (settledHost_of_readHost hhost).ne_empty
      have htext : hostText true false rest ≠ [] := by
        intro hnil
        rw [hnil] at hhost
        cases hhost
      simp only [hhost, hne, List.isEmpty_iff, htext]
      simp only [if_true, and_false, if_false, decide_false, Bool.false_eq_true, false_and]
      generalize rest.drop (hostText true false rest).length = tail
      cases tail with
      | nil => rfl
      | cons c tail =>
        by_cases hc : c = ':'
        · subst hc
          have hport : readAfterHost scheme (':' :: tail) = readPort scheme tail := rfl
          rw [hport]
          cases hdigits : readPort scheme tail with
          | error e => simp [hdigits, Except.map]
          | ok parts => simp [hdigits, Except.map, pure, Except.pure]
        · simp [hc, readAfterHost_cons hc, Except.map, pure, Except.pure]

theorem exists_parts (hscheme : isSpecial scheme = true) (h : readAuthority scheme s = .ok u) :
    ∃ user password rest host port after, readUser true s = .ok (user, password, rest) ∧
      readHost (hostText true false rest) = .ok host ∧
      readAfterHost scheme (rest.drop (hostText true false rest).length) = .ok (port, after) ∧
      u = readRest scheme ⟨user, password, host, port⟩ after := by
  rw [readAuthority_eq hscheme] at h
  cases huser : readUser true s with
  | error e => simp [huser, Except.bind] at h
  | ok parts =>
    cases hhost : readHost (hostText true false parts.2.2) with
    | error e => simp [huser, hhost, Except.bind] at h
    | ok host =>
      cases hport : readAfterHost scheme (parts.2.2.drop (hostText true false parts.2.2).length) with
      | error e => simp [huser, hhost, hport, Except.bind, Except.map] at h
      | ok rest =>
        simp only [huser, hhost, hport, Except.bind, Except.map, Except.ok.injEq] at h
        exact ⟨_, _, _, host, _, _, rfl, hhost, hport, h.symm⟩

theorem plain_of_readUser (h : readUser true s = .ok (user, password, rest)) :
    (∀ c ∈ user, inUser c = false) ∧ ∀ c ∈ password, inUser c = false := by
  have hset : escapeChars.any inUser = false := by decide
  rw [readUser] at h
  split at h
  · cases h
    exact ⟨List.forall_mem_nil _, List.forall_mem_nil _⟩
  · split at h
    · cases h
    · cases h
      exact ⟨List.forall_mem_nil _, List.forall_mem_nil _⟩
  · cases h
    exact ⟨fun c hc => not_set_of_mem_encode hset hc, fun c hc => not_set_of_mem_encode hset hc⟩

theorem port_of_readAfterHost (h : readAfterHost scheme rest = .ok (port, after)) :
    ∀ n ∈ port, n ≤ 65535 ∧ some n ≠ defaultPort? scheme := by
  unfold readAfterHost at h
  split at h
  · rw [readPort] at h
    intro n hn
    simp only at h
    split_ifs at h with hlarge hend hnone
    · cases h
      cases hn
    · cases h
      rw [← Option.some_inj.mp hn]
      simp only [Bool.or_eq_true, not_or, beq_iff_eq] at hnone
      exact ⟨by omega, hnone.2⟩
  · cases h
    simp

theorem exists_settledAuthority (hscheme : isSpecial scheme = true) (h : readAuthority scheme s = .ok u) :
    ∃ a after, u = readRest scheme a after ∧ SettledAuthority scheme a := by
  obtain ⟨user, password, rest, host, port, after, huser, hhost, hport, rfl⟩ := exists_parts hscheme h
  obtain ⟨huserPlain, hpasswordPlain⟩ := plain_of_readUser huser
  exact ⟨_, after, rfl, huserPlain, hpasswordPlain, settledHost_of_readHost hhost, port_of_readAfterHost hport⟩

section Text

def portText (port : Option Nat) : List Char :=
  match port with
  | some p => ':' :: Nat.toDigits 10 p
  | none => []

theorem authority_toText (a : Authority) : a.toText = a.userText ++ a.host.toText ++ portText a.port := rfl

theorem foldl_toDigits (n : Nat) :
    (Nat.toDigits 10 n).foldl (fun n c => min 65536 (n * 10 + (c.toNat - 48))) 0 = min 65536 n := by
  induction n using Nat.strong_induction_on with
  | h n ih =>
    by_cases hn : n < 10
    · rw [Nat.toDigits_of_lt_base hn]
      simp [Nat.toNat_digitChar_sub_48_of_lt_ten hn]
    · rw [Nat.toDigits_of_base_le (by decide) (by omega), List.foldl_append, ih (n / 10) (by omega)]
      simp only [List.foldl_cons, List.foldl_nil, Nat.toNat_digitChar_sub_48_of_lt_ten (Nat.mod_lt n (by decide))]
      omega

theorem readAfterHost_portText (hport : ∀ n ∈ port, n ≤ 65535 ∧ some n ≠ defaultPort? scheme) (t : List Char) :
    readAfterHost scheme (portText port ++ '/' :: t) = .ok (port, '/' :: t) := by
  cases port with
  | none => rfl
  | some n =>
    obtain ⟨hsmall, hdefault⟩ := hport n rfl
    have hslash : ∀ c ∈ ('/' :: t).head?, Unicode.isAsciiDigit c = false := by
      intro c hc
      cases hc
      decide
    obtain ⟨htake, hdrop⟩ := span_append (fun c hc => isDigit_of_mem_toDigits (n := n) hc) hslash
    have hends : endsAuthority true '/' = true := by decide
    have hfits : min 65536 n = n := by omega
    rw [portText, List.cons_append, readAfterHost, readPort, List.span_eq_takeWhile_dropWhile, htake, hdrop]
    simp only [foldl_toDigits, hfits]
    rw [if_neg (by omega), if_neg (by simp [hends])]
    simp [hdefault]

theorem isInner_of_inUser {c : Char} (h : inUser c = false) : isInner c = true ∧ c ≠ ':' := by
  have hlarge : 0x20 < c.toNat := by
    simp only [inUser, Bool.or_eq_false_iff] at h
    exact large_of_not_inPath h.1
  have hends : endsAuthority true c = false := by
    simp [endsAuthority, ne_of_class h (d := '/') rfl, ne_of_class h (d := '?') rfl, ne_of_class h (d := '#') rfl,
      ne_of_class h (d := '\\') rfl]
  have hat : (c != '@') = true := bne_iff_ne.mpr (ne_of_class h rfl)
  exact ⟨by simp [isInner, hends, hat, hlarge], ne_of_class h rfl⟩

theorem isInner_of_mem_portText {c : Char} (h : c ∈ portText port) : isInner c = true := by
  cases port with
  | none => cases h
  | some n =>
    rcases List.mem_cons.mp h with rfl | h
    · decide
    · exact (isInner_of_isForbidden (settledChar_of_isAsciiDigit (isDigit_of_mem_toDigits h)).2.2).1

def infoText (a : Authority) : List Char := a.user ++ if a.password = [] then [] else ':' :: a.password

theorem userText_eq (a : Authority) : a.userText = if infoText a = [] then [] else infoText a ++ ['@'] := by
  obtain ⟨user, password, host, port⟩ := a
  cases user <;> cases password <;> simp [Authority.userText, infoText]

theorem isInner_of_mem_infoText {c : Char} (h : SettledAuthority scheme a) (hc : c ∈ infoText a) : isInner c = true := by
  rcases List.mem_append.mp hc with hc | hc
  · exact (isInner_of_inUser (h.user c hc)).1
  · split at hc
    · cases hc
    · rcases List.mem_cons.mp hc with rfl | hc
      · decide
      · exact (isInner_of_inUser (h.password c hc)).1

theorem splitLast_append_at (info : List Char) (hrest : '@' ∉ rest) :
    Text.splitLast ['@'] (info ++ '@' :: rest) = some (info, rest) := by
  have hnone : Text.splitLast ['@'] rest = none :=
    Text.splitLast_eq_none_iff.mpr fun h => hrest (h.subset List.mem_cons_self)
  induction info with
  | nil => simp [Text.splitLast, hnone]
  | cons c info ih => rw [List.cons_append, Text.splitLast, ih]

theorem readInfo (h : SettledAuthority scheme a) :
    encode inUser ((infoText a).takeWhile (· != ':')) = a.user ∧
      encode inUser (((infoText a).dropWhile (· != ':')).drop 1) = a.password := by
  have huser : ∀ c ∈ a.user, (c != ':') = true := fun c hc => bne_iff_ne.mpr (isInner_of_inUser (h.user c hc)).2
  have hcolon : ∀ c ∈ (if a.password = [] then [] else ':' :: a.password).head?, (c != ':') = false := by
    split <;> simp
  obtain ⟨htake, hdrop⟩ := span_append huser hcolon
  rw [infoText, htake, hdrop]
  refine ⟨encode_eq_self h.user, ?_⟩
  split
  · next hnil => simp [hnil, encode]
  · exact encode_eq_self h.password

theorem isInner_of_mem_toText {c : Char} (h : SettledAuthority scheme a) (hc : c ∈ a.toText) :
    c = '@' ∨ isInner c = true := by
  rw [authority_toText, userText_eq, List.append_assoc] at hc
  rcases List.mem_append.mp hc with hc | hc
  · split at hc
    · cases hc
    · rcases List.mem_append.mp hc with hc | hc
      · exact .inr (isInner_of_mem_infoText h hc)
      · exact .inl (List.mem_singleton.mp hc)
  · rcases List.mem_append.mp hc with hc | hc
    · exact .inr (h.host.inner c hc)
    · exact .inr (isInner_of_mem_portText hc)

theorem readUser_toText (h : SettledAuthority scheme a) (t : List Char) :
    readUser true (a.toText ++ '/' :: t) = .ok (a.user, a.password, a.host.toText ++ portText a.port ++ '/' :: t) := by
  have hends : ∀ c ∈ a.toText, (!endsAuthority true c) = true := by
    intro c hc
    rcases isInner_of_mem_toText h hc with rfl | hinner
    · decide
    · simp only [isInner, Bool.and_eq_true] at hinner
      exact hinner.1.2
  have hslash : ∀ c ∈ ('/' :: t).head?, (!endsAuthority true c) = false := by
    intro c hc
    cases hc
    decide
  have hat : '@' ∉ a.host.toText ++ portText a.port := by
    intro hmem
    rcases List.mem_append.mp hmem with hmem | hmem
    · exact absurd (h.host.inner _ hmem) (by decide)
    · exact absurd (isInner_of_mem_portText hmem) (by decide)
  obtain ⟨htake, -⟩ := span_append hends hslash
  rw [readUser, htake, List.drop_left, authority_toText, userText_eq]
  by_cases hinfo : infoText a = []
  · have hnone : Text.splitLast ['@'] (a.host.toText ++ portText a.port) = none :=
      Text.splitLast_eq_none_iff.mpr fun h => hat (h.subset List.mem_cons_self)
    have hparts := readInfo h
    simp only [hinfo, List.takeWhile_nil, List.dropWhile_nil, List.drop_nil, encode, List.flatMap_nil] at hparts
    rw [if_pos hinfo, List.nil_append, hnone, ← hparts.1, ← hparts.2]
  · have hsplit : Text.splitLast ['@'] (infoText a ++ ['@'] ++ a.host.toText ++ portText a.port) =
        some (infoText a, a.host.toText ++ portText a.port) := by
      simpa using splitLast_append_at (infoText a) hat
    obtain ⟨huser, hpassword⟩ := readInfo h
    rw [if_neg hinfo, hsplit]
    simp only [List.span_eq_takeWhile_dropWhile, huser, hpassword]

/-- A settled authority is read as it is written, in front of a slash. -/
theorem readAuthority_toText (hscheme : isSpecial scheme = true) (h : SettledAuthority scheme a) (t : List Char) :
    readAuthority scheme (a.toText ++ '/' :: t) = .ok (readRest scheme a ('/' :: t)) := by
  have hends : EndsHost (portText a.port ++ '/' :: t) := by
    intro c hc
    cases hport : a.port <;> simp [portText, hport] at hc <;> simp [← hc]
  have htext := h.host.text _ hends
  rw [← List.append_assoc] at htext
  rw [readAuthority_eq hscheme, readUser_toText h t]
  simp only [Except.bind, htext, h.host.read]
  rw [List.append_assoc, List.drop_left, readAfterHost_portText h.port t]
  rfl

end Text

end Authorities

variable {c : Char} {scheme s t rest : List Char} {a : Authority} {u : Url}

/-- The schemes with a host that is never missing. -/
def webSchemes : List (List Char) := ["http", "https", "ws", "wss", "ftp"].map String.toList

theorem isSpecial_of_mem (h : scheme ∈ webSchemes) : isSpecial scheme = true ∧ scheme ≠ "file".toList := by
  revert scheme
  decide

theorem readScheme_of_mem (h : scheme ∈ webSchemes) (rest : List Char) :
    readScheme (scheme ++ ':' :: rest) = some (scheme, rest) := by
  have hscheme : ∀ scheme ∈ webSchemes, scheme.head?.any Unicode.isAsciiLetter = true ∧
      scheme.all isSchemeChar = true ∧ scheme.map Unicode.asciiLower = scheme := by decide
  obtain ⟨hletter, hchars, hlower⟩ := hscheme scheme h
  have hcolon : ∀ c ∈ (':' :: rest).head?, isSchemeChar c = false := by
    intro c hc
    cases hc
    decide
  obtain ⟨htake, hdrop⟩ := span_append (List.all_eq_true.mp hchars) hcolon
  have hhead : (scheme ++ ':' :: rest).head?.any Unicode.isAsciiLetter = true := by
    cases scheme with
    | nil => cases hletter
    | cons c scheme => exact hletter
  rw [readScheme, if_pos hhead, List.span_eq_takeWhile_dropWhile, htake, hdrop]
  simp [hlower]

section Reading

theorem scheme_readFile (h : readFile s = .ok u) : u.scheme = "file".toList := by
  unfold readFile at h
  simp only [bind, Except.bind, pure, Except.pure] at h
  repeat' split at h
  all_goals cases h
  all_goals rfl

theorem scheme_readAuthority (h : readAuthority scheme s = .ok u) : u.scheme = scheme := by
  rw [readAuthority] at h
  simp only [bind, Except.bind, pure, Except.pure] at h
  repeat' split at h
  all_goals cases h
  all_goals rfl

theorem exists_settled (h : read s = .ok u) (hu : u.scheme ∈ webSchemes) :
    ∃ a, u.authority = some a ∧ SettledAuthority u.scheme a ∧ SettledParts u := by
  obtain ⟨hspecial, hfile⟩ := isSpecial_of_mem hu
  rw [read] at h
  split at h
  · cases h
  · next scheme rest _ =>
    split at h
    · exact absurd (scheme_readFile h) hfile
    · split at h
      · next hscheme =>
        obtain ⟨a, after, rfl, ha⟩ := exists_settledAuthority hscheme h
        exact ⟨a, rfl, ha, settledParts_readRest hscheme a after⟩
      · next hscheme =>
        have hother : u.scheme = scheme := by
          split at h
          · exact scheme_readAuthority h
          · cases h
            rfl
        rw [hother] at hspecial
        exact absurd hspecial hscheme

end Reading

section Writing

/-- The text in front of the path. -/
def frontOf (scheme : List Char) (a : Authority) : List Char := scheme ++ ':' :: '/' :: '/' :: a.toText

theorem toText_eq_frontOf (h : u.authority = some a) : u.toText = frontOf u.scheme a ++ u.restText := toText_eq h

/-- What is dropped from an address before it is read. -/
def isDropped (c : Char) : Bool := c == '\t' || c == '\n' || c == '\r'

theorem exists_last_toText (h : SettledAuthority scheme a) : ∃ front c, a.toText = front ++ [c] ∧ c ≠ '/' := by
  have hne : a.toText ≠ [] := by
    rw [authority_toText]
    simp [h.host.nonempty]
  obtain ⟨front, c, hlast⟩ := List.eq_nil_or_concat a.toText |>.resolve_left hne
  rw [List.concat_eq_append] at hlast
  refine ⟨front, c, hlast, ?_⟩
  rintro rfl
  have hmem : '/' ∈ a.toText := by simp [hlast]
  rcases isInner_of_mem_toText h hmem with hat | hinner
  · cases hat
  · exact absurd hinner (by decide)

theorem large_of_mem_frontOf (hscheme : scheme ∈ webSchemes) (h : SettledAuthority scheme a) (hc : c ∈ frontOf scheme a) :
    0x20 < c.toNat := by
  have hall : ∀ scheme ∈ webSchemes, (scheme ++ [':', '/', '/']).all (0x20 < ·.toNat) = true := by decide
  rw [frontOf] at hc
  have hc : c ∈ scheme ++ [':', '/', '/'] ∨ c ∈ a.toText := by
    simp only [List.mem_append, List.mem_cons] at hc ⊢
    tauto
  rcases hc with hc | hc
  · simpa using List.all_eq_true.mp (hall scheme hscheme) c hc
  · rcases isInner_of_mem_toText h hc with rfl | hinner
    · decide
    · simp only [isInner, Bool.and_eq_true, decide_eq_true_eq] at hinner
      exact hinner.1.1

theorem dropWhile_isSlash (h : SettledAuthority scheme a) (t : List Char) :
    ('/' :: '/' :: (a.toText ++ t)).dropWhile isSlash = a.toText ++ t := by
  rw [List.dropWhile_cons_of_pos rfl, List.dropWhile_cons_of_pos rfl]
  refine Text.dropWhile_eq_self fun c hc => ?_
  have hne : a.toText ≠ [] := by
    rw [authority_toText]
    simp [h.host.nonempty]
  rw [List.head?_append_of_ne_nil _ hne] at hc
  rcases isInner_of_mem_toText h (List.mem_of_head? hc) with rfl | hinner
  · decide
  · simp [isSlash, ne_of_class hinner (d := '/') rfl, ne_of_class hinner (d := '\\') rfl]

theorem filter_isDropped (h : ∀ c ∈ s, 0x20 < c.toNat) : s.filter (!isDropped ·) = s := by
  refine List.filter_eq_self.mpr fun c hc => ?_
  have hlarge : decide (0x20 < c.toNat) = true := decide_eq_true (h c hc)
  simp [isDropped, ne_of_class (f := fun c => decide (0x20 < c.toNat)) hlarge (d := '\t') rfl,
    ne_of_class (f := fun c => decide (0x20 < c.toNat)) hlarge (d := '\n') rfl,
    ne_of_class (f := fun c => decide (0x20 < c.toNat)) hlarge (d := '\r') rfl]

/-- An address on a host is read as what stands behind the host is, once blanks at the end and line breaks are dropped. -/
theorem read_frontOf (hscheme : scheme ∈ webSchemes) (h : SettledAuthority scheme a) (t : List Char) :
    read (frontOf scheme a ++ '/' :: t) =
      .ok (readRest scheme a ('/' :: (Text.dropEndWhile (·.toNat ≤ 32) t).filter (!isDropped ·))) := by
  obtain ⟨hspecial, hfile⟩ := isSpecial_of_mem hscheme
  have hlarge : ∀ c ∈ frontOf scheme a, 0x20 < c.toNat := fun c hc => large_of_mem_frontOf hscheme h hc
  have hstrip : Text.strip (·.toNat ≤ 32) (frontOf scheme a ++ '/' :: t) =
      frontOf scheme a ++ '/' :: Text.dropEndWhile (·.toNat ≤ 32) t := by
    rw [Text.strip, Text.dropWhile_eq_self, Text.dropEndWhile_append_cons rfl]
    intro c hc
    have hmem : c ∈ frontOf scheme a := by
      refine List.mem_of_head? ?_
      rwa [List.head?_append_of_ne_nil _ (by simp [frontOf])] at hc
    simpa using hlarge c hmem
  have hslash : (!isDropped '/') = true := by decide
  have hclean : (Text.strip (·.toNat ≤ 32) (frontOf scheme a ++ '/' :: t)).filter (!isDropped ·) =
      frontOf scheme a ++ '/' :: (Text.dropEndWhile (·.toNat ≤ 32) t).filter (!isDropped ·) := by
    rw [hstrip, List.filter_append, filter_isDropped hlarge, List.filter_cons, if_pos hslash]
  simp only [isDropped] at hclean ⊢
  rw [read, hclean, frontOf, List.append_assoc, List.cons_append, readScheme_of_mem hscheme]
  simp only [if_neg hfile, hspecial, if_true, List.cons_append, dropWhile_isSlash h, readAuthority_toText hspecial h]

theorem large_of_settledRest (h : SettledRest t) (hc : c ∈ t) : 0x20 < c.toNat := by
  rw [← List.takeWhile_append_dropWhile (p := (!isPathEnd ·)) (l := t)] at hc
  rcases List.mem_append.mp hc with hc | hc
  · exact large_of_not_inPath (h.path.plain c hc)
  · rw [← List.takeWhile_append_dropWhile (p := (· != '#')) (l := t.dropWhile (!isPathEnd ·))] at hc
    rcases List.mem_append.mp hc with hc | hc
    · exact large_of_not_inSpecialQuery (h.tail.query c hc)
    · exact large_of_not_inFragment (h.tail.fragment c hc)

theorem clean_of_settledRest (h : SettledRest t) :
    (Text.dropEndWhile (·.toNat ≤ 32) t).filter (!isDropped ·) = t := by
  have hlarge : ∀ c ∈ t, 0x20 < c.toNat := fun c hc => large_of_settledRest h hc
  rw [Text.dropEndWhile_eq_self fun c hc => by simpa using hlarge c (List.mem_of_getLast? hc)]
  exact filter_isDropped hlarge

end Writing

end Storefront.Url
