import Mathlib.Data.List.Induction
import Mathlib.Data.Set.Function
import Storefront.Proofs.Fetch.Cache
import Storefront.Proofs.Time.Order

/-! # Two tiers as one map

A cache that keeps every page twice answers as one map would that remembers for each address the last
page put there, and forgets it when it is invalidated. Neither what the tiers drop on the way nor a
restart shows.
-/
namespace Storefront

inductive CacheAction
  | put (url content : String)
  | get (url : String)
  | invalidate (url : String)
  | reopen
deriving DecidableEq

namespace CacheAction

/-- The address that an action is about. -/
def url? : CacheAction → Option String
  | put url _ => some url
  | get url => some url
  | invalidate url => some url
  | reopen => none

/-- The address whose page an action replaces or removes. -/
def changes? : CacheAction → Option String
  | put url _ => some url
  | invalidate url => some url
  | _ => none

def page? (now : Timestamp) : CacheAction → Option CachedPage
  | put _ content => some ⟨now, content⟩
  | _ => none

def learn (now : Timestamp) (known : String → Option CachedPage) : CacheAction → String → Option CachedPage
  | put url content => Function.update known url (some ⟨now, content⟩)
  | invalidate url => Function.update known url none
  | _ => known

end CacheAction

abbrev CacheHistory := List (Timestamp × CacheAction)

namespace CacheHistory

/-- The last page put at an address, unless it has been invalidated since. -/
def kept (history : CacheHistory) (url : String) : Option CachedPage :=
  (history.reverse.find? fun a => decide (a.2.changes? = some url)).bind fun a => a.2.page? a.1

/-- In order of time, with no page empty, and with a file name of its own for each address. -/
structure Orderly (history : CacheHistory) : Prop where
  ordered : (history.map Prod.fst).Pairwise fun a b => a.notAfter b = true
  filled : ∀ now url, (now, .put url "") ∉ history
  distinct : Set.InjOn (fun url : String => Text.fileName url.toList) {url | ∃ a ∈ history, a.2.url? = some url}

theorem kept_concat (history : CacheHistory) (now : Timestamp) (a : CacheAction) :
    kept (history ++ [(now, a)]) = a.learn now (kept history) := by
  funext url
  unfold kept
  rw [List.reverse_append, List.reverse_singleton, List.singleton_append, List.find?_cons]
  cases a with
  | put url' content =>
    rw [CacheAction.learn, Function.update_apply]
    by_cases h : url = url'
    · simp [CacheAction.changes?, CacheAction.page?, h]
    · simp [CacheAction.changes?, h, Ne.symm h]
  | get url' => simp [CacheAction.changes?, CacheAction.learn]
  | invalidate url' =>
    rw [CacheAction.learn, Function.update_apply]
    by_cases h : url = url'
    · simp [CacheAction.changes?, CacheAction.page?, h]
    · simp [CacheAction.changes?, h, Ne.symm h]
  | reopen => simp [CacheAction.changes?, CacheAction.learn]

end CacheHistory

namespace PageCache
open CacheHistory (kept)

def act (c : PageCache) (now : Timestamp) : CacheAction → PageCache
  | .put url content => c.put now url content
  | .get url => (c.get now url).2
  | .invalidate url => c.invalidate url
  | .reopen => c.reopen

def acts (c : PageCache) (history : CacheHistory) : PageCache :=
  history.foldl (fun c a => c.act a.1 a.2) c

theorem isFresh_of_notAfter {ttl : Nat} {written now later : Timestamp} (h : now.notAfter later = true)
    (hfresh : isFresh ttl written later = true) : isFresh ttl written now = true :=
  Timestamp.before_of_notAfter h hfresh

theorem fileName_injOn {urls : Set String} (h : urls.InjOn fun url : String => Text.fileName url.toList) :
    urls.InjOn fileName := by
  intro a ha b hb hab
  refine h ha hb ?_
  have := congrArg String.toList hab
  simpa [fileName] using this

theorem fromUTF8?_toUTF8 (s : String) : String.fromUTF8? s.toUTF8 = some s := by
  unfold String.fromUTF8?
  rw [dif_pos (show s.toUTF8.IsValidUTF8 from s.isValidUTF8)]
  rfl

def fileOf (page : CachedPage) : PageFile := ⟨page.written, page.content.toUTF8⟩

/-- Both tiers hold nothing that the map does not know, and the folder holds all of that which is fresh. -/
structure Agrees (c : PageCache) (known : String → Option CachedPage) (urls : Set String) (now : Timestamp) :
    Prop where
  onDisk : ∃ table, c.folder = .files table
  filled : ∀ url page, known url = some page → page.content ≠ ""
  memory : ∀ url page, c.memory.get? url = some page → known url = some page
  file : ∀ url ∈ urls, ∀ file, c.folder.file? (fileName url) = some file →
    ∃ page, known url = some page ∧ file = fileOf page
  fresh : ∀ url ∈ urls, ∀ page, known url = some page → isFresh c.ttl page.written now = true →
    c.folder.file? (fileName url) = some (fileOf page)

section
variable {c : PageCache} {known : String → Option CachedPage} {urls : Set String} {now : Timestamp} {url : String}

theorem Agrees.later {later : Timestamp} (h : c.Agrees known urls now) (hlater : now.notAfter later = true) :
    c.Agrees known urls later :=
  { h with fresh := fun url hurl page hpage hfresh => h.fresh url hurl page hpage (isFresh_of_notAfter hlater hfresh) }

theorem file?_put (h : ∃ table, c.folder = .files table) (name other : String) (file : PageFile) :
    (c.folder.put name file).file? other = if other = name then some file else c.folder.file? other := by
  obtain ⟨table, htable⟩ := h
  rw [htable]
  exact table.get?_insert name other file

theorem Agrees.eraseMemory (h : c.Agrees known urls now) (url : String) :
    ({ c with memory := c.memory.erase url } : PageCache).Agrees known urls now := by
  refine { h with memory := fun url' page hpage => ?_ }
  rw [Table.get?_erase] at hpage
  split at hpage
  · cases hpage
  · exact h.memory url' page hpage

theorem Agrees.insertMemory {page : CachedPage} (h : c.Agrees known urls now) (hknown : known url = some page) :
    ({ c with memory := c.memory.insert url page } : PageCache).Agrees known urls now := by
  refine { h with memory := fun url' page' hpage => ?_ }
  rw [Table.get?_insert] at hpage
  split at hpage
  · rename_i heq
    rw [heq, hknown, hpage]
  · exact h.memory url' page' hpage

theorem Agrees.eraseFile (h : c.Agrees known urls now) (hinj : urls.InjOn fileName) (hurl : url ∈ urls)
    (hstale : ∀ page, known url = some page → isFresh c.ttl page.written now = false) :
    ({ c with folder := c.folder.erase (fileName url) } : PageCache).Agrees known urls now := by
  refine { h with
    onDisk := ?_
    file := fun url' hurl' file hfile => ?_
    fresh := fun url' hurl' page hpage hfresh => ?_ }
  · obtain ⟨table, htable⟩ := h.onDisk
    exact ⟨table.erase (fileName url), by rw [htable]; rfl⟩
  · rw [PageFolder.file?_erase] at hfile
    split at hfile
    · cases hfile
    · exact h.file url' hurl' file hfile
  · rw [PageFolder.file?_erase, if_neg]
    · exact h.fresh url' hurl' page hpage hfresh
    · intro hname
      rw [hinj hurl' hurl hname] at hpage
      rw [hstale page hpage] at hfresh
      cases hfresh

theorem Agrees.fromFolder (h : c.Agrees known urls now) (hinj : urls.InjOn fileName) (hurl : url ∈ urls) :
    (c.fromFolder now url).1 = ((known url).filter fun page => isFresh c.ttl page.written now).map CachedPage.content ∧
      (c.fromFolder now url).2.Agrees known urls now := by
  unfold PageCache.fromFolder
  cases hfile : c.folder.file? (fileName url) with
  | none =>
    refine ⟨?_, h⟩
    cases hknown : known url with
    | none => rfl
    | some page =>
      have hstale : isFresh c.ttl page.written now ≠ true := fun hfresh => by
        rw [h.fresh url hurl page hknown hfresh] at hfile
        cases hfile
      simp [Option.filter, hstale]
  | some file =>
    obtain ⟨page, hknown, rfl⟩ := h.file url hurl file hfile
    dsimp only [fileOf]
    cases hfresh : isFresh c.ttl page.written now with
    | false =>
      rw [if_pos (by simp), hknown]
      refine ⟨by simp [Option.filter, hfresh], h.eraseFile hinj hurl fun page' hpage' => ?_⟩
      rw [hknown, Option.some.injEq] at hpage'
      rw [← hpage', hfresh]
    | true =>
      rw [if_neg (by simp [h.filled url page hknown]), fromUTF8?_toUTF8, hknown]
      exact ⟨by simp [Option.filter, hfresh], h.insertMemory hknown⟩

/-- The answer is what the map knows and what is fresh, wherever it comes from. -/
theorem Agrees.get (h : c.Agrees known urls now) (hinj : urls.InjOn fileName) (hurl : url ∈ urls) :
    (c.get now url).1 = ((known url).filter fun page => isFresh c.ttl page.written now).map CachedPage.content ∧
      (c.get now url).2.Agrees known urls now := by
  have hlookup := c.get_lookup now url
  generalize c.get now url = found at hlookup
  cases hlookup with
  | fresh known fresh => exact ⟨by simp [h.memory url _ known, Option.filter, fresh], h⟩
  | stale known stale => exact (h.eraseMemory url).fromFolder hinj hurl
  | unknown unknown => exact h.fromFolder hinj hurl

/-- Both tiers may have something else at an address, or nothing, when the map has the same there. -/
theorem Agrees.replace {c' : PageCache} {page? : Option CachedPage} (h : c.Agrees known urls now)
    (hinj : urls.InjOn fileName) (hurl : url ∈ urls) (hfilled : ∀ page, page? = some page → page.content ≠ "")
    (httl : c'.ttl = c.ttl) (hdisk : ∃ table, c'.folder = .files table)
    (hmemory : ∀ url', c'.memory.get? url' = if url' = url then page? else c.memory.get? url')
    (hfile : ∀ name, c'.folder.file? name =
      if name = fileName url then page?.map fileOf else c.folder.file? name) :
    c'.Agrees (Function.update known url page?) urls now := by
  have hname {url' : String} (hurl' : url' ∈ urls) (hne : url' ≠ url) : fileName url' ≠ fileName url :=
    fun heq => hne (hinj hurl' hurl heq)
  refine ⟨hdisk, fun url' page hpage => ?_, fun url' page hpage => ?_, fun url' hurl' file hf => ?_,
    fun url' hurl' page hpage hfresh => ?_⟩
  · rw [Function.update_apply] at hpage
    split at hpage
    · exact hfilled page hpage
    · exact h.filled url' page hpage
  · rw [hmemory] at hpage
    rw [Function.update_apply]
    by_cases heq : url' = url
    · rwa [if_pos heq] at hpage ⊢
    · rw [if_neg heq] at hpage ⊢
      exact h.memory url' page hpage
  · rw [hfile] at hf
    rw [Function.update_apply]
    by_cases heq : url' = url
    · rw [if_pos (congrArg fileName heq)] at hf
      obtain ⟨page, hpage, hpagefile⟩ := Option.map_eq_some_iff.mp hf
      exact ⟨page, (if_pos heq).trans hpage, hpagefile.symm⟩
    · rw [if_neg (hname hurl' heq)] at hf
      rw [if_neg heq]
      exact h.file url' hurl' file hf
  · rw [Function.update_apply] at hpage
    rw [hfile]
    by_cases heq : url' = url
    · rw [if_pos heq] at hpage
      rw [if_pos (congrArg fileName heq), hpage]
      rfl
    · rw [if_neg heq] at hpage
      rw [if_neg (hname hurl' heq)]
      exact h.fresh url' hurl' page hpage (httl ▸ hfresh)

theorem Agrees.put {content : String} (h : c.Agrees known urls now) (hinj : urls.InjOn fileName) (hurl : url ∈ urls)
    (hcontent : content ≠ "") :
    (c.put now url content).Agrees (Function.update known url (some ⟨now, content⟩)) urls now := by
  refine h.replace hinj hurl ?_ rfl ?_ (fun url' => c.memory.get?_insert _ _ _)
    fun name => file?_put h.onDisk _ _ _
  · intro page hpage
    cases hpage
    exact hcontent
  · obtain ⟨table, htable⟩ := h.onDisk
    exact ⟨table.insert (fileName url) ⟨now, content.toUTF8⟩, by rw [PageCache.put, htable]; rfl⟩

theorem Agrees.invalidate (h : c.Agrees known urls now) (hinj : urls.InjOn fileName) (hurl : url ∈ urls) :
    (c.invalidate url).Agrees (Function.update known url none) urls now := by
  refine h.replace hinj hurl (fun _ hpage => nomatch hpage) rfl ?_ (fun url' => c.memory.get?_erase _ _)
    fun name => c.folder.file?_erase _ _
  obtain ⟨table, htable⟩ := h.onDisk
  exact ⟨table.erase (fileName url), by rw [PageCache.invalidate, htable]; rfl⟩

theorem Agrees.reopen (h : c.Agrees known urls now) : c.reopen.Agrees known urls now :=
  { h with memory := fun _ _ hpage => nomatch hpage }

/-- An action on a cache that agrees with a map leaves one that agrees with what is known then. -/
theorem Agrees.act {a : CacheAction} (h : c.Agrees known urls now) (hinj : urls.InjOn fileName)
    (hurl : ∀ url, a.url? = some url → url ∈ urls) (hfilled : ∀ url, a ≠ .put url "") :
    (c.act now a).Agrees (a.learn now known) urls now := by
  cases a with
  | put url content => exact h.put hinj (hurl url rfl) fun hempty => hfilled url (by rw [hempty])
  | get url => exact (h.get hinj (hurl url rfl)).2
  | invalidate url => exact h.invalidate hinj (hurl url rfl)
  | reopen => exact h.reopen

end

def onEmptyFolder (ttl : Nat) : PageCache := { ttl, folder := .files {} }

theorem agrees_onEmptyFolder (ttl : Nat) (urls : Set String) (now : Timestamp) :
    (onEmptyFolder ttl).Agrees (kept []) urls now where
  onDisk := ⟨{}, rfl⟩
  filled _ _ h := nomatch h
  memory _ _ h := nomatch h
  file _ _ _ h := nomatch h
  fresh _ _ _ h := nomatch h

theorem act_ttl (c : PageCache) (now : Timestamp) (a : CacheAction) : (c.act now a).ttl = c.ttl := by
  cases a with
  | put url content => rfl
  | get url => exact c.get_ttl now url
  | invalidate url => rfl
  | reopen => rfl

theorem acts_ttl (c : PageCache) (history : CacheHistory) : (c.acts history).ttl = c.ttl := by
  induction history generalizing c with
  | nil => rfl
  | cons a rest ih => exact (ih (c.act a.1 a.2)).trans (c.act_ttl a.1 a.2)

/-- After any history the tiers agree with what has been kept. -/
theorem agrees_acts (ttl : Nat) {history : CacheHistory} {urls : Set String} {now : Timestamp}
    (hinj : urls.InjOn fileName) (hurls : ∀ a ∈ history, ∀ url, a.2.url? = some url → url ∈ urls)
    (hfilled : ∀ t url, (t, .put url "") ∉ history)
    (hordered : (history.map Prod.fst).Pairwise fun a b => a.notAfter b = true)
    (hnow : ∀ a ∈ history, a.1.notAfter now = true) :
    ((onEmptyFolder ttl).acts history).Agrees (kept history) urls now := by
  induction history using List.reverseRecOn generalizing now with
  | nil => exact agrees_onEmptyFolder ttl urls now
  | append_singleton history a ih =>
    obtain ⟨t, a⟩ := a
    rw [List.map_append, List.pairwise_append] at hordered
    obtain ⟨hbefore, -, hlast⟩ := hordered
    have hagrees := ih (fun a ha => hurls a (List.mem_append_left _ ha))
      (fun t url ha => hfilled t url (List.mem_append_left _ ha)) hbefore
      fun a ha => hlast a.1 (List.mem_map_of_mem ha) t (by simp)
    rw [CacheHistory.kept_concat, acts, List.foldl_append]
    refine (hagrees.act hinj (hurls (t, a) (by simp)) fun url ha => hfilled t url ?_).later (hnow (t, a) (by simp))
    exact List.mem_append_right _ (List.mem_singleton.mpr (congrArg (t, ·) ha.symm))

/-- A page is there just when the last that was done to its address was to put it, not longer ago than
pages count as fresh. -/
theorem get_acts {ttl : Nat} {history : CacheHistory} {now : Timestamp} {url : String}
    (h : CacheHistory.Orderly (history ++ [(now, .get url)])) :
    (((onEmptyFolder ttl).acts history).get now url).1 =
      ((kept history url).filter fun page => now.before (page.written.addSeconds ttl)).map CachedPage.content := by
  have hinj := fileName_injOn h.distinct
  have hordered := h.ordered
  rw [List.map_append, List.pairwise_append] at hordered
  obtain ⟨hbefore, -, hlast⟩ := hordered
  have hagrees := agrees_acts ttl hinj
    (fun a ha url hurl => ⟨a, List.mem_append_left _ ha, hurl⟩)
    (fun t url ha => h.filled t url (List.mem_append_left _ ha)) hbefore
    fun a ha => hlast a.1 (List.mem_map_of_mem ha) now (by simp)
  rw [(hagrees.get hinj ⟨(now, .get url), by simp, rfl⟩).1, acts_ttl]
  rfl

def shoes : String := "https://shop.test/shoes"
def boots : String := "https://shop.test/boots"

/-- One page is put twice and comes from the folder after a restart, the other one is invalidated. -/
def morning : CacheHistory :=
  [(⟨0, 0⟩, .put shoes "one"), (⟨5, 0⟩, .put boots "two"), (⟨10, 0⟩, .put shoes "three"), (⟨20, 0⟩, .reopen),
    (⟨25, 0⟩, .get shoes), (⟨30, 0⟩, .invalidate boots)]

def eleven : Timestamp := ⟨69, 999999999⟩

theorem get_acts_morning : CacheHistory.Orderly (morning ++ [(eleven, CacheAction.get shoes)]) ∧
    (((onEmptyFolder 60).acts morning).get eleven shoes).1 = some "three" := by
  have h : CacheHistory.Orderly (morning ++ [(eleven, CacheAction.get shoes)]) := by
    refine ⟨by decide, fun now url hmem => ?_, fun a ha b hb hab => ?_⟩
    · simp [morning] at hmem
    · have hnames : Text.fileName shoes.toList ≠ Text.fileName boots.toList := by decide +kernel
      have hurls {url : String} (h : ∃ a ∈ morning ++ [(eleven, CacheAction.get shoes)], a.2.url? = some url) :
          url = shoes ∨ url = boots := by
        obtain ⟨a, ha, hurl⟩ := h
        have hall : ∀ a ∈ morning ++ [(eleven, CacheAction.get shoes)],
            a.2.url? = none ∨ a.2.url? = some shoes ∨ a.2.url? = some boots := by decide
        rcases hall a ha with h | h | h <;> rw [hurl] at h <;> cases h <;> simp
      rcases hurls ha with rfl | rfl <;> rcases hurls hb with rfl | rfl
      · rfl
      · exact absurd hab hnames
      · exact absurd hab.symm hnames
      · rfl
  exact ⟨h, (get_acts h).trans (by decide)⟩

end PageCache
end Storefront
