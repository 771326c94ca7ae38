import Storefront.Proofs.Job.Faults
import Storefront.Proofs.Job.Results
import Storefront.Proofs.Scan.Locks

/-! # What a batch accounts for

Of the targets with one plan name and one address the first is scanned, and of each that is scanned there is one
outcome, whatever becomes of the others. Two shops whose plans have one name are told apart by nothing else, so only
one of them is scanned at an address that they share.
-/
namespace Storefront

namespace Pool
variable {κ σ α β : Type} [DecidableEq κ]

theorem filterMap_range_getElem? (tasks : List β) :
    (List.range tasks.length).filterMap (fun i => tasks[i]?) = tasks := by
  induction tasks with
  | nil => rfl
  | cons b rest ih =>
    rw [List.length_cons, List.range_succ_eq_map, List.filterMap_cons, List.filterMap_map]
    exact congrArg (b :: ·) ih

/-- Each task comes to one result, in whatever order they are done. -/
theorem outcomes_run {f : β → Job κ σ α} {rank : κ → Nat} (h : ∀ b, (f b).Climbs rank ∅ ∅) {bound : Nat}
    (hbound : ∀ key, rank key ≤ bound) {limit : Nat} (hlimit : limit ≠ 0) (tasks : List β) (now : Nat) (state : σ) :
    ∃ done : List β, done.Perm tasks ∧
      List.Forall₂ (fun b a => (f b).Yields a) done (start limit (tasks.map f) now state).run.outcomes := by
  have hjobs : ∀ job ∈ tasks.map f, job.Climbs rank ∅ ∅ := by
    simpa using fun b _ => h b
  obtain ⟨hnumbers, hresults⟩ := results_run hjobs hbound hlimit now state
  generalize (start limit (tasks.map f) now state).run = p at hnumbers hresults ⊢
  rw [List.length_map] at hnumbers
  refine ⟨(p.results.map Prod.fst).filterMap fun i => tasks[i]?, ?_, ?_⟩
  · have hperm := hnumbers.filterMap fun i => tasks[i]?
    rwa [filterMap_range_getElem?] at hperm
  · rw [outcomes]
    clear hnumbers
    generalize p.results = results at hresults
    induction results with
    | nil => exact .nil
    | cons r rest ih =>
      rw [List.forall_mem_cons] at hresults
      obtain ⟨⟨job, hjob, hyields⟩, hrest⟩ := hresults
      rw [List.getElem?_map, Option.map_eq_some_iff] at hjob
      obtain ⟨b, hb, rfl⟩ := hjob
      rw [List.map_cons, List.filterMap_cons, hb]
      exact .cons hyields (ih hrest)

end Pool

namespace ScanTarget
variable {u : ScanTarget} {targets : List ScanTarget}

/-- The distinct targets are those with no target of their key before them. -/
theorem mem_distinct_iff : u ∈ distinct targets ↔
    ∃ before after, targets = before ++ u :: after ∧ ∀ w ∈ before, w.key ≠ u.key := by
  induction targets with
  | nil => simp [distinct]
  | cons t rest ih =>
    simp only [distinct, List.mem_cons, List.mem_filter, ih, bne_iff_ne]
    constructor
    · rintro (rfl | ⟨⟨before, after, rfl, hbefore⟩, hne⟩)
      · exact ⟨[], rest, rfl, by simp⟩
      · exact ⟨t :: before, after, rfl, List.forall_mem_cons.mpr ⟨hne.symm, hbefore⟩⟩
    · rintro ⟨before, after, heq, hbefore⟩
      cases before with
      | nil =>
        cases heq
        exact .inl rfl
      | cons w before =>
        cases heq
        rw [List.forall_mem_cons] at hbefore
        exact .inr ⟨⟨before, after, rfl, hbefore.2⟩, hbefore.1.symm⟩

theorem nodup_distinct (targets : List ScanTarget) : ((distinct targets).map key).Nodup := by
  induction targets with
  | nil => exact List.nodup_nil
  | cons t rest ih =>
    rw [distinct, List.map_cons, List.nodup_cons]
    exact ⟨by simp, (List.filter_sublist.map key).nodup ih⟩

end ScanTarget

namespace Scanner
variable {ν ρ : Type} {s : Scanner ν ρ}

theorem outcome_of_yields {u : ScanTarget} {o : ScanOutcome} (h : (s.scanTarget u).Yields o) :
    o.plan = u.plan.name ∧ o.uri = u.uri := by
  obtain ⟨now, -, h⟩ := h.exists_of_bind
  split at h
  · obtain rfl : _ = o := h
    exact ⟨rfl, rfl⟩
  · obtain ⟨result, -, h⟩ := h.exists_of_bind
    obtain rfl : _ = o := h
    exact ⟨rfl, rfl⟩

/-- A batch has one outcome for each target that is scanned, no two of them with one plan name and one address. An
address of a domain is accounted for just when a target for it is the first with its plan name and address. -/
theorem scanBatch_accounts (s : Scanner ν ρ) (hsource : ∀ c main, (s.desk.source c main).Lockless)
    (hallows : ∀ question, (s.desk.allows question).Lockless) (targets : List ScanTarget) (now : Nat)
    (t : ScanState ν ρ) :
    ∃ scanned : List ScanTarget,
      List.Forall₂ (fun u o => (s.scanTarget u).Yields o ∧ o.plan = u.plan.name ∧ o.uri = u.uri) scanned
        (s.scanBatch targets now t).outcomes ∧
      (scanned.map ScanTarget.key).Nodup ∧ (∀ u ∈ scanned, u ∈ targets) ∧
      ∀ domain uri, (∃ u ∈ scanned, u.plan.domain = domain ∧ u.uri = uri) ↔
        ∃ before u after, targets = before ++ u :: after ∧ (∀ w ∈ before, w.key ≠ u.key) ∧
          u.plan.domain = domain ∧ u.uri = uri := by
  have hlimit : s.limit ≠ 0 := by
    unfold limit
    omega
  obtain ⟨scanned, hperm, houtcomes⟩ := Pool.outcomes_run (climbs_scanTarget hallows hsource) RateLock.rank_le hlimit
    (ScanTarget.distinct targets) now t
  have hmem : ∀ u, u ∈ scanned ↔ ∃ before after, targets = before ++ u :: after ∧ ∀ w ∈ before, w.key ≠ u.key :=
    fun u => hperm.mem_iff.trans ScanTarget.mem_distinct_iff
  refine ⟨scanned, houtcomes.imp fun u o h => ⟨h, outcome_of_yields h⟩, ?_, fun u hu => ?_, fun domain uri => ?_⟩
  · exact (hperm.map ScanTarget.key).nodup_iff.mpr (ScanTarget.nodup_distinct targets)
  · obtain ⟨before, after, rfl, -⟩ := (hmem u).mp hu
    exact List.mem_append_right _ List.mem_cons_self
  · constructor
    · rintro ⟨u, hu, hdomain, huri⟩
      obtain ⟨before, after, htargets, hbefore⟩ := (hmem u).mp hu
      exact ⟨before, u, after, htargets, hbefore, hdomain, huri⟩
    · rintro ⟨before, u, after, htargets, hbefore, hdomain, huri⟩
      exact ⟨u, (hmem u).mpr ⟨before, after, htargets, hbefore⟩, hdomain, huri⟩

def lamps (host : String) : PagePlan where
  id := none
  name := "Lamps"
  domain := { scheme := "https".toList, authority := some { host := .name host.toList }, path := ['/'] }
  title := Rule.css "title"
  defaultMode := .alongside
  defaultOption := some { price := Rule.css "i", currency := .usd }

def lampStreet : Transport (List String) where
  send url _ asked := (⟨.page 200 "<title>Lamp</title><i>10</i>", 0⟩, asked ++ [url])

def lampScanner : Scanner (List String) (Site (List String)) where
  settings := { dataDir := "data", concurrency := 2 }
  transport := lampStreet
  desk :=
    let clock := fun _ => ⟨1767225600, 0⟩
    let search := ⟨(lamps "rates.test").domain, { attempts := 1, step := 0 }, lampStreet, clock⟩
    { source := webRate search none, allows := fun _ => pure false, clock }

def unvisited : ScanState (List String) (Site (List String)) where
  folder := .absent
  net := []
  book := .ofMain .usd 43200 "rates.txt" .missing
  outside := { delay := 0, cache := { ttl := 60, folder := .absent }, net := [] }

theorem scanBatch_accounts_lamps :
    let targets : List ScanTarget :=
      [⟨lamps "a.test", some "x"⟩, ⟨lamps "b.test", some "y"⟩, ⟨lamps "a.test", some "x"⟩, ⟨lamps "b.test", none⟩]
    (∀ c main, (lampScanner.desk.source c main).Lockless) ∧
      (∀ question, (lampScanner.desk.allows question).Lockless) ∧
      ∃ scanned : List ScanTarget,
        List.Forall₂ (fun u o => (lampScanner.scanTarget u).Yields o ∧ o.plan = u.plan.name ∧ o.uri = u.uri) scanned
          (lampScanner.scanBatch targets 0 unvisited).outcomes ∧
        (scanned.map ScanTarget.key).Nodup ∧ (∀ u ∈ scanned, u ∈ targets) ∧
        ∀ t ∈ targets, ∃ u ∈ scanned, u.plan.domain = t.plan.domain ∧ u.uri = t.uri := by
  intro targets
  have hsource : ∀ c main, (lampScanner.desk.source c main).Lockless := lockless_webRate _ none
  have hallows : ∀ question, (lampScanner.desk.allows question).Lockless := fun _ => Job.lockless_pure false
  obtain ⟨scanned, houtcomes, hnodup, hmem, haccounts⟩ :=
    scanBatch_accounts lampScanner hsource hallows targets 0 unvisited
  refine ⟨hsource, hallows, scanned, houtcomes, hnodup, hmem, ?_⟩
  simp only [targets, List.forall_mem_cons, List.not_mem_nil, false_imp_iff, implies_true, and_true]
  have hlamp : ∃ u ∈ scanned, u.plan.domain = (lamps "a.test").domain ∧ u.uri = some "x" :=
    (haccounts _ _).mpr ⟨[], _, _, rfl, by simp, rfl, rfl⟩
  refine ⟨hlamp, ?_, hlamp, ?_⟩
  · exact (haccounts _ _).mpr ⟨[_], ⟨lamps "b.test", some "y"⟩, _, rfl, by decide, rfl, rfl⟩
  · exact (haccounts _ _).mpr ⟨[_, _, _], ⟨lamps "b.test", none⟩, [], rfl, by decide, rfl, rfl⟩

/-- The second shop is never asked for its page, and no outcome is one of its own. -/
theorem second_shop_is_lost :
    let targets : List ScanTarget := [⟨lamps "a.test", some "x"⟩, ⟨lamps "b.test", some "x"⟩]
    let p := lampScanner.scanBatch targets 0 unvisited
    p.outcomes.map (fun o => (o.plan, o.uri)) = [("Lamps", some "x")] ∧ p.state.net = ["https://a.test/x"] ∧
      ¬ ∃ scanned : List ScanTarget, List.Forall₂ (fun u o => (lampScanner.scanTarget u).Yields o) scanned p.outcomes ∧
        ∀ t ∈ targets, ∃ u ∈ scanned, u.plan.domain = t.plan.domain ∧ u.uri = t.uri := by
  intro targets p
  have hrun : p.outcomes.map (fun o => (o.plan, o.uri)) = [("Lamps", some "x")] ∧
      p.state.net = ["https://a.test/x"] := by
    unfold p scanBatch
    rw [Pool.run_eq_steps (n := 200) (by decide +kernel)]
    decide +kernel
  refine ⟨hrun.1, hrun.2, ?_⟩
  rintro ⟨scanned, houtcomes, haccounts⟩
  have hlength : scanned.length = 1 := by
    rw [houtcomes.length_eq]
    simpa using congrArg List.length hrun.1
  obtain ⟨u, rfl⟩ := List.length_eq_one_iff.mp hlength
  simp only [List.mem_singleton, exists_eq_left] at haccounts
  have hfirst := (haccounts ⟨lamps "a.test", some "x"⟩ (by simp [targets])).1
  have hsecond := (haccounts ⟨lamps "b.test", some "x"⟩ (by simp [targets])).1
  exact absurd (hfirst.symm.trans hsecond) (by decide)

end Scanner
end Storefront
