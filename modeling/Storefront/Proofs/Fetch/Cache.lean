import Storefront.Fetch.Cache

/-! # What looking for a page does

To look for a page may drop what is not fresh, and may bring a page from the folder into memory. It does not
change for how long pages count. When it is in vain it adds nothing, and what it drops was of that page and did not
count any more.
-/
namespace Storefront

theorem PageFolder.file?_erase (folder : PageFolder) (name other : String) :
    (folder.erase name).file? other = if other = name then none else folder.file? other := by
  cases folder with
  | files table => exact table.get?_erase name other
  | absent => exact (ite_self none).symm
  | blocked => exact (ite_self none).symm

/-- Of a map that has lost a value with a property, just the other values are left. -/
theorem lost_eq_some_iff {κ α : Type} [DecidableEq κ] {find : κ → Option α} {key : κ} {P : α → Prop}
    (h : ∀ a, find key = some a → P a) (other : κ) (a : α) :
    (if other = key then none else find other) = some a ↔ find other = some a ∧ ¬ (other = key ∧ P a) := by
  by_cases heq : other = key
  · subst heq
    rw [if_pos rfl]
    exact iff_of_false nofun fun ⟨ha, hnot⟩ => hnot ⟨rfl, h a ha⟩
  · rw [if_neg heq]
    exact (and_iff_left fun hlost => heq hlost.1).symm

theorem kept_eq_some_iff {κ α : Type} {find : κ → Option α} {key : κ} {P : α → Prop}
    (h : ∀ a, find key = some a → ¬ P a) (other : κ) (a : α) :
    find other = some a ↔ find other = some a ∧ ¬ (other = key ∧ P a) := by
  refine (and_iff_left_of_imp fun ha hlost => ?_).symm
  obtain ⟨rfl, hP⟩ := hlost
  exact h a ha hP

namespace PageFile

/-- Whether a file does not count any more. -/
def IsSpent (file : PageFile) (ttl : Nat) (now : Timestamp) : Prop :=
  file.bytes.size = 0 ∨ PageCache.isFresh ttl file.written now = false

instance (file : PageFile) (ttl : Nat) (now : Timestamp) : Decidable (file.IsSpent ttl now) :=
  inferInstanceAs (Decidable (_ ∨ _))

theorem isSpent_iff {file : PageFile} {ttl : Nat} {now : Timestamp} :
    file.IsSpent ttl now ↔ (file.bytes.size = 0 || !PageCache.isFresh ttl file.written now) = true := by
  simp [IsSpent]

end PageFile

namespace PageCache

/-- What comes of looking for a page, by what there is in memory. -/
inductive Lookup (c : PageCache) (now : Timestamp) (url : String) : Option String × PageCache → Prop
  | fresh {page : CachedPage} (known : c.memory.get? url = some page) (fresh : isFresh c.ttl page.written now = true) :
      Lookup c now url (some page.content, c)
  | stale {page : CachedPage} (known : c.memory.get? url = some page) (stale : isFresh c.ttl page.written now = false) :
      Lookup c now url (fromFolder { c with memory := c.memory.erase url } now url)
  | unknown (unknown : c.memory.get? url = none) : Lookup c now url (c.fromFolder now url)

theorem get_lookup (c : PageCache) (now : Timestamp) (url : String) : c.Lookup now url (c.get now url) := by
  unfold get fromMemory
  cases hpage : c.memory.get? url with
  | none => exact .unknown hpage
  | some page =>
    dsimp only
    cases hfresh : isFresh c.ttl page.written now with
    | false => exact .stale hpage hfresh
    | true => exact .fresh hpage hfresh

theorem fromFolder_ttl (c : PageCache) (now : Timestamp) (url : String) : (c.fromFolder now url).2.ttl = c.ttl := by
  unfold fromFolder
  split
  · rfl
  · split
    · rfl
    · split <;> rfl

theorem get_ttl (c : PageCache) (now : Timestamp) (url : String) : (c.get now url).2.ttl = c.ttl := by
  have hlookup := c.get_lookup now url
  generalize c.get now url = found at hlookup
  cases hlookup with
  | fresh known fresh => rfl
  | stale known stale => exact fromFolder_ttl _ now url
  | unknown unknown => exact c.fromFolder_ttl now url

/-- The page that counts in memory. -/
def inMemory? (c : PageCache) (now : Timestamp) (url : String) : Option String :=
  ((c.memory.get? url).filter fun page => isFresh c.ttl page.written now).map CachedPage.content

/-- The page that counts in the folder. There is none in an empty file, or in one that is not text. -/
def inFolder? (c : PageCache) (now : Timestamp) (url : String) : Option String :=
  ((c.folder.file? (fileName url)).filter fun file => !decide (file.IsSpent c.ttl now)).bind
    fun file => String.fromUTF8? file.bytes

/-- Whether a cache has lost what it held of a page that did not count any more, and nothing else. -/
structure Swept (c : PageCache) (now : Timestamp) (url : String) (c' : PageCache) : Prop where
  ttl : c'.ttl = c.ttl
  memory : ∀ other page, c'.memory.get? other = some page ↔
    c.memory.get? other = some page ∧ ¬ (other = url ∧ isFresh c.ttl page.written now = false)
  file : ∀ name file, c'.folder.file? name = some file ↔
    c.folder.file? name = some file ∧ ¬ (name = fileName url ∧ file.IsSpent c.ttl now)
  folder : c'.folder = c.folder ∨ c'.folder = c.folder.erase (fileName url)

theorem fromFolder_fst (c : PageCache) (now : Timestamp) (url : String) :
    (c.fromFolder now url).1 = c.inFolder? now url := by
  unfold fromFolder inFolder?
  cases c.folder.file? (fileName url) with
  | none => rfl
  | some file =>
    dsimp only
    by_cases hspent : file.IsSpent c.ttl now
    · rw [if_pos (PageFile.isSpent_iff.mp hspent), Option.filter_some, if_neg (by simpa using hspent)]
      rfl
    · rw [if_neg (mt PageFile.isSpent_iff.mpr hspent), Option.filter_some, if_pos (by simpa using hspent),
        Option.bind_some]
      cases String.fromUTF8? file.bytes with
      | none => rfl
      | some content => rfl

/-- A page is found that counts in memory, or else in the folder. -/
theorem get_fst (c : PageCache) (now : Timestamp) (url : String) :
    (c.get now url).1 = (c.inMemory? now url).or (c.inFolder? now url) := by
  have hlookup := c.get_lookup now url
  generalize c.get now url = found at hlookup
  cases hlookup with
  | fresh known fresh => rw [inMemory?, known, Option.filter_some, if_pos fresh, Option.map_some, Option.some_or]
  | stale known stale =>
    rw [fromFolder_fst, inMemory?, known, Option.filter_some, if_neg (by simp [stale]), Option.map_none, Option.none_or]
    rfl
  | unknown unknown => rw [fromFolder_fst, inMemory?, unknown, Option.filter_none, Option.map_none, Option.none_or]

section
variable {c : PageCache} {now : Timestamp} {url content : String}

theorem fromFolder_of_missed (h : (c.fromFolder now url).1 = none) :
    ∃ folder, (c.fromFolder now url).2 = { c with folder } ∧
      (∀ name file, folder.file? name = some file ↔
        c.folder.file? name = some file ∧ ¬ (name = fileName url ∧ file.IsSpent c.ttl now)) ∧
      (folder = c.folder ∨ folder = c.folder.erase (fileName url)) := by
  unfold fromFolder at h ⊢
  cases hfile : c.folder.file? (fileName url) with
  | none =>
    refine ⟨c.folder, rfl, kept_eq_some_iff fun file hsome => ?_, .inl rfl⟩
    rw [hfile] at hsome
    cases hsome
  | some file =>
    rw [hfile] at h
    have hfile_eq {file'} (hsome : c.folder.file? (fileName url) = some file') : file = file' :=
      Option.some.inj (hfile.symm.trans hsome)
    dsimp only at h ⊢
    by_cases hspent : file.IsSpent c.ttl now
    · rw [if_pos (PageFile.isSpent_iff.mp hspent)]
      refine ⟨_, rfl, fun name file' => ?_, .inr rfl⟩
      rw [PageFolder.file?_erase]
      exact lost_eq_some_iff (fun _ hsome => hfile_eq hsome ▸ hspent) name file'
    · rw [if_neg (mt PageFile.isSpent_iff.mpr hspent)] at h ⊢
      cases htext : String.fromUTF8? file.bytes with
      | none => exact ⟨c.folder, rfl, kept_eq_some_iff fun _ hsome => hfile_eq hsome ▸ hspent, .inl rfl⟩
      | some content =>
        rw [htext] at h
        cases h

/-- Looking for a page in vain sweeps it out. -/
theorem get_swept (h : (c.get now url).1 = none) : c.Swept now url (c.get now url).2 := by
  have hlookup := c.get_lookup now url
  generalize c.get now url = found at h hlookup
  cases hlookup with
  | fresh known fresh => cases h
  | stale known stale =>
    obtain ⟨folder, hfound, hfile, hfolder⟩ := fromFolder_of_missed h
    rw [hfound]
    refine ⟨rfl, fun other page => ?_, hfile, hfolder⟩
    rw [Table.get?_erase]
    exact lost_eq_some_iff (fun _ hsome => Option.some.inj (known.symm.trans hsome) ▸ stale) other page
  | unknown unknown =>
    obtain ⟨folder, hfound, hfile, hfolder⟩ := fromFolder_of_missed h
    rw [hfound]
    have hnone (page : CachedPage) (hsome : c.memory.get? url = some page) : ¬ isFresh c.ttl page.written now = false :=
      nomatch unknown.symm.trans hsome
    exact ⟨rfl, kept_eq_some_iff hnone, hfile, hfolder⟩

/-- Once it is put in, a page is found for as long as it is fresh, whether there is a folder or not. -/
theorem get_put (c : PageCache) (now later : Timestamp) (url content : String) :
    ((c.put now url content).get later url).1 = if isFresh c.ttl now later then some content else none := by
  have hmemory : (c.put now url content).inMemory? later url = if isFresh c.ttl now later then some content else none := by
    rw [inMemory?, put, Table.get?_insert, if_pos rfl, Option.filter_some]
    cases isFresh c.ttl now later <;> rfl
  rw [get_fst, hmemory]
  split
  · exact Option.some_or
  · rename_i hstale
    -- The file is as old as the page in memory.
    have hspent : PageFile.IsSpent ⟨now, content.toUTF8⟩ c.ttl later := .inr (by simpa using hstale)
    rw [Option.none_or, inFolder?, put]
    cases c.folder with
    | absent => rfl
    | blocked => rfl
    | files table =>
      simp only [PageFolder.put, PageFolder.file?, Table.get?_insert, if_true, Option.filter_some, hspent,
        decide_true, Bool.not_true, Bool.false_eq_true, if_false, Option.bind_none]

/-- Whether a cache holds nothing that another one does not hold. -/
def HoldsNoMore (c c' : PageCache) : Prop :=
  (∀ url page, c.memory.get? url = some page → c'.memory.get? url = some page) ∧
    ∀ name file, c.folder.file? name = some file → c'.folder.file? name = some file

theorem get_holdsNoMore (h : (c.get now url).1 = none) : (c.get now url).2.HoldsNoMore c := by
  have hswept := get_swept h
  exact ⟨fun other page hpage => ((hswept.memory other page).mp hpage).1,
    fun name file hfile => ((hswept.file name file).mp hfile).1⟩

theorem get_of_fresh {page : CachedPage} (hpage : c.memory.get? url = some page)
    (hfresh : isFresh c.ttl page.written now = true) : c.get now url = (some page.content, c) := by
  rw [get, fromMemory, hpage]
  dsimp only
  rw [if_pos hfresh]

theorem fromFolder_of_absent (c : PageCache) (h : c.folder = .absent) (now : Timestamp) (url : String) :
    c.fromFolder now url = (none, c) := by
  rw [fromFolder, h]
  rfl

/-- Without a folder a page that is found is a fresh one in memory. -/
theorem get_of_found (hfolder : c.folder = .absent) (h : (c.get now url).1 = some content) :
    (c.get now url).2 = c ∧ ∃ page, c.memory.get? url = some page ∧ page.content = content ∧
      isFresh c.ttl page.written now = true := by
  have hlookup := c.get_lookup now url
  generalize c.get now url = found at h hlookup
  cases hlookup with
  | fresh known fresh => exact ⟨rfl, _, known, Option.some.inj h, fresh⟩
  | stale known stale =>
    rw [fromFolder_of_absent { c with memory := c.memory.erase url } hfolder] at h
    cases h
  | unknown unknown =>
    rw [c.fromFolder_of_absent hfolder] at h
    cases h

theorem get_of_missed (hfolder : c.folder = .absent) (h : (c.get now url).1 = none) :
    (c.get now url).2.ttl = c.ttl ∧ (c.get now url).2.folder = .absent ∧
      ∀ other, (c.get now url).2.memory.get? other = if other = url then none else c.memory.get? other := by
  have hlookup := c.get_lookup now url
  generalize c.get now url = found at h hlookup
  cases hlookup with
  | fresh known fresh => cases h
  | stale known stale =>
    rw [fromFolder_of_absent { c with memory := c.memory.erase url } hfolder]
    exact ⟨rfl, hfolder, c.memory.get?_erase url⟩
  | unknown unknown =>
    rw [c.fromFolder_of_absent hfolder]
    refine ⟨rfl, hfolder, fun other => ?_⟩
    split
    · rename_i heq
      rw [heq, unknown]
    · rfl

end
end PageCache
end Storefront
