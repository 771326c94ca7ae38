import Mathlib.Data.List.Induction
import Storefront.Proofs.Fetch.Attempts

/-! # The delay as a history of answers

A failure adds a step to the delay of a site, and a page takes one away. So the delay tells of all answers
that there have been, but for one kind: the failure that uses up the attempts of a download adds nothing.
-/
namespace Storefront

/-- The delay after an answer. -/
def Answer.adjust (step delay : Nat) (a : Answer) : Nat :=
  match a.verdict with
  | .failed _ => delay + step
  | .found _ => delay - step
  | .missing => delay

/-- The delay after answers, from the first to the last. -/
def pace (step delay : Nat) (answers : List Answer) : Nat := answers.foldl (Answer.adjust step) delay

theorem pace_append (step delay : Nat) (answers more : List Answer) :
    pace step delay (answers ++ more) = pace step (pace step delay answers) more := List.foldl_append

theorem pace_mono (step : Nat) {delay delay' : Nat} (h : delay ≤ delay') (answers : List Answer) :
    pace step delay answers ≤ pace step delay' answers := by
  induction answers generalizing delay delay' with
  | nil => exact h
  | cons a rest ih =>
    refine ih ?_
    unfold Answer.adjust
    cases a.verdict with
    | failed problem => exact Nat.add_le_add_right h step
    | found body => exact Nat.sub_le_sub_right h step
    | missing => exact h

/-- Whether a download has used up its attempts. -/
def Attempt.isExhausted : Attempt String → Bool
  | .error (.exhausted _ _ _) => true
  | _ => false

def answersFrom (replies : Nat → Reply) (first count : Nat) : List Answer :=
  (List.range' first count).map fun i => (replies i).answer

theorem answersFrom_succ (replies : Nat → Reply) (first count : Nat) :
    answersFrom replies first (count + 1) = (replies first).answer :: answersFrom replies (first + 1) count := by
  rw [answersFrom, List.range'_succ]
  rfl

theorem answersFrom_append (replies : Nat → Reply) (first m n : Nat) :
    answersFrom replies first m ++ answersFrom replies (first + m) n = answersFrom replies first (m + n) := by
  rw [answersFrom, answersFrom, ← List.map_append, List.range'_append_1, answersFrom]

namespace Fetcher
variable {κ : Type}

/-- Pages visited one after the other, each visit begun no earlier than an instant of its own. -/
def visits (f : Fetcher Nat) (pages : List (Nat × Option String)) : Job κ (Site Nat) (List (Attempt String)) :=
  Job.inTurn (pages.map fun page => (page.1, f.get none page.2))

theorem run_visits_concat (f : Fetcher Nat) (pages : List (Nat × Option String)) (page : Nat × Option String)
    (now : Nat) (s : Site Nat) :
    (f.visits (pages ++ [page]) : Job κ (Site Nat) _).run now s =
      let o := (f.visits pages : Job κ (Site Nat) _).run now s
      let p := (f.get none page.2 : Job κ (Site Nat) _).run (max o.instant page.1) o.state
      ⟨o.value ++ [p.value], p.instant, p.state⟩ := by
  rw [visits, List.map_append, List.map_singleton, Job.run_inTurn_concat]
  rfl

def newSite (f : Fetcher Nat) (cache : PageCache) : Site Nat := { delay := f.policy.step, cache, net := 0 }

/-- The delay that all answers up to one together would make. -/
def paceOf (f : Fetcher Nat) (replies : Nat → Reply) (count : Nat) : Nat :=
  pace f.policy.step f.policy.step (answersFrom replies 0 count)

theorem paceOf_eq (f : Fetcher Nat) (replies : Nat → Reply) {first count : Nat} (h : first ≤ count) :
    f.paceOf replies count =
      pace f.policy.step (f.paceOf replies first) (answersFrom replies first (count - first)) := by
  have happend := answersFrom_append replies 0 first (count - first)
  rw [Nat.zero_add, Nat.add_sub_cancel' h] at happend
  rw [paceOf, ← happend, pace_append, paceOf]

section
variable {f : Fetcher Nat} {replies : Nat → Reply} (htransport : f.transport = .stream replies)
include htransport

theorem net_lt_downloadWith (url : String) (more now : Nat) (s : Site Nat) :
    s.net < ((f.downloadWith none none url more : Job κ (Site Nat) _).run now s).state.net := by
  induction more using Nat.strongRecOn generalizing now s with
  | ind more ih =>
    rw [run_downloadWith]
    simp only [htransport, Transport.stream]
    cases (replies s.net).answer.verdict with
    | missing => exact Nat.lt_succ_self _
    | found body => exact Nat.lt_succ_self _
    | failed problem =>
      cases more with
      | zero => exact Nat.lt_succ_self _
      | succ more => exact Nat.lt_of_succ_lt (ih more (Nat.lt_succ_self _) _ (Site.grow _ { s with net := s.net + 1 }))

/-- Whatever ends a download changes the delay as the other answers do, unless the attempts are used up. -/
theorem downloadWith_pace_last (url : String) {more : Nat} (now : Nat) {s : Site Nat}
    (h : more = 0 ∨ ∀ problem, (replies s.net).answer.verdict ≠ .failed problem) :
    let o := (f.downloadWith none none url more : Job κ (Site Nat) _).run now s
    o.state.delay + (if o.value.isExhausted then f.policy.step else 0) =
      pace f.policy.step s.delay (answersFrom replies s.net (o.state.net - s.net)) := by
  rw [run_downloadWith]
  simp only [htransport, Transport.stream]
  cases hverdict : (replies s.net).answer.verdict with
  | missing => simp [hverdict, answersFrom, pace, Answer.adjust, Attempt.isExhausted]
  | found body => simp [hverdict, answersFrom, pace, Answer.adjust, Attempt.isExhausted, Site.shrink]
  | failed problem =>
    obtain rfl : more = 0 := h.resolve_right fun hnot => hnot problem hverdict
    simp [hverdict, answersFrom, pace, Answer.adjust, Attempt.isExhausted]

/-- A download changes the delay by each of its answers, but for the failure that uses up the attempts. -/
theorem downloadWith_pace (url : String) (more now : Nat) (s : Site Nat)
    (hfits : ∀ m, s.net + m ≤ ((f.downloadWith none none url more : Job κ (Site Nat) _).run now s).state.net →
      pace f.policy.step s.delay (answersFrom replies s.net m) < pow2 64) :
    let o := (f.downloadWith none none url more : Job κ (Site Nat) _).run now s
    o.state.delay + (if o.value.isExhausted then f.policy.step else 0) =
      pace f.policy.step s.delay (answersFrom replies s.net (o.state.net - s.net)) := by
  induction more generalizing now s with
  | zero => exact downloadWith_pace_last htransport url now (.inl rfl)
  | succ more ih =>
    cases h : (replies s.net).answer.verdict with
    | missing => exact downloadWith_pace_last htransport url now (.inr (by simp [h]))
    | found body => exact downloadWith_pace_last htransport url now (.inr (by simp [h]))
    | failed problem =>
      have hmore := net_lt_downloadWith (κ := κ) htransport url (more + 1) now s
      have hfirst (m : Nat) : pace f.policy.step s.delay (answersFrom replies s.net (m + 1)) =
          pace f.policy.step (s.delay + f.policy.step) (answersFrom replies (s.net + 1) m) := by
        rw [answersFrom_succ, pace, List.foldl_cons, Answer.adjust, h]
        rfl
      obtain ⟨now', s', hrun, hnet, -, hdelay⟩ := exists_run_retry (κ := κ) htransport url more now h
      rw [hrun] at hfits hmore ⊢
      have hgrown : s'.delay = s.delay + f.policy.step := by
        have hone := hfits 1 hmore
        rw [hfirst] at hone
        exact hdelay.trans (Nat.mod_eq_of_lt hone)
      refine (ih now' s' fun m hm => ?_).trans ?_
      · rw [hgrown, hnet, ← hfirst]
        exact hfits (m + 1) (by omega)
      · rw [hgrown, hnet, ← hfirst]
        congr 2
        omega

theorem net_le_get (hbudget : f.policy.budget = none) (uri : Option String) (now : Nat) (s : Site Nat) :
    s.net ≤ ((f.get none uri : Job κ (Site Nat) _).run now s).state.net := by
  rcases f.get_cases (κ := κ) none uri now s with ⟨hnet, -, -⟩ | ⟨s', hnet, -, -, hnet', -⟩
  · exact Nat.le_of_eq hnet.symm
  · rw [hnet', ← hnet, run_download f hbudget]
    exact Nat.le_of_lt (net_lt_downloadWith htransport _ _ now s')

theorem get_pace (hbudget : f.policy.budget = none) (uri : Option String) (now : Nat) (s : Site Nat)
    (hfits : ∀ m, s.net + m ≤ ((f.get none uri : Job κ (Site Nat) _).run now s).state.net →
      pace f.policy.step s.delay (answersFrom replies s.net m) < pow2 64) :
    let o := (f.get none uri : Job κ (Site Nat) _).run now s
    o.state.delay + (if o.value.isExhausted then f.policy.step else 0) =
      pace f.policy.step s.delay (answersFrom replies s.net (o.state.net - s.net)) := by
  intro o
  rcases f.get_cases (κ := κ) none uri now s with ⟨hnet, hdelay, hvalue⟩ | ⟨s', hnet, hdelay, hvalue, hnet', hdelay'⟩
  · have hgiven : o.value.isExhausted = false := by
      rcases hvalue with ⟨content, hvalue⟩ | hvalue
      · rw [show o.value = _ from hvalue]
        rfl
      · rw [show o.value = _ from hvalue]
        rfl
    rw [hgiven, show o.state.net = _ from hnet, show o.state.delay = _ from hdelay, Nat.sub_self]
    rfl
  · rw [show o.value = _ from hvalue, show o.state.net = _ from hnet', show o.state.delay = _ from hdelay']
    rw [hnet'] at hfits
    rw [run_download f hbudget] at hfits ⊢
    rw [← hnet, ← hdelay] at hfits ⊢
    exact downloadWith_pace htransport _ _ now s' hfits

theorem get_pace_of_le (hbudget : f.policy.budget = none) (uri : Option String) (now : Nat) (s : Site Nat)
    (hfits : ∀ m ≤ ((f.get none uri : Job κ (Site Nat) _).run now s).state.net, f.paceOf replies m < pow2 64)
    (hle : s.delay ≤ f.paceOf replies s.net) :
    let o := (f.get none uri : Job κ (Site Nat) _).run now s
    o.state.delay + (if o.value.isExhausted then f.policy.step else 0) =
        pace f.policy.step s.delay (answersFrom replies s.net (o.state.net - s.net)) ∧
      o.state.delay ≤ f.paceOf replies o.state.net := by
  intro o
  have hnet : s.net ≤ o.state.net := net_le_get htransport hbudget uri now s
  have hlaw := get_pace htransport hbudget uri now s fun m hm => by
    refine Nat.lt_of_le_of_lt (pace_mono _ hle _) ?_
    have hall := hfits (s.net + m) hm
    rwa [paceOf_eq f replies (Nat.le_add_right s.net m), Nat.add_sub_cancel_left] at hall
  refine ⟨hlaw, ?_⟩
  calc o.state.delay ≤ pace f.policy.step s.delay (answersFrom replies s.net (o.state.net - s.net)) :=
        hlaw ▸ Nat.le_add_right _ _
    _ ≤ pace f.policy.step (f.paceOf replies s.net) (answersFrom replies s.net (o.state.net - s.net)) :=
        pace_mono _ hle _
    _ = f.paceOf replies o.state.net := (paceOf_eq f replies hnet).symm

variable (hbudget : f.policy.budget = none) (cache : PageCache) (now : Nat)
include hbudget

theorem net_visits_mono {seen pages : List (Nat × Option String)} (h : seen <+: pages) (s : Site Nat) :
    ((f.visits seen : Job κ (Site Nat) _).run now s).state.net ≤
      ((f.visits pages : Job κ (Site Nat) _).run now s).state.net := by
  induction pages using List.reverseRecOn with
  | nil => exact Nat.le_of_eq (by rw [List.prefix_nil.mp h])
  | append_singleton pages page ih =>
    rcases List.prefix_concat_iff.mp h with rfl | h
    · exact Nat.le_refl _
    · rw [f.run_visits_concat pages page]
      exact Nat.le_trans (ih h) (net_le_get htransport hbudget page.2 _ _)

theorem delay_visits_le (pages : List (Nat × Option String))
    (hfits : ∀ m ≤ ((f.visits pages : Job κ (Site Nat) _).run now (f.newSite cache)).state.net,
      f.paceOf replies m < pow2 64) :
    let o := (f.visits pages : Job κ (Site Nat) _).run now (f.newSite cache)
    o.state.delay ≤ f.paceOf replies o.state.net := by
  induction pages using List.reverseRecOn with
  | nil => exact Nat.le_refl _
  | append_singleton pages page ih =>
    rw [run_visits_concat] at hfits ⊢
    have hnet := net_le_get (κ := κ) htransport hbudget page.2
    exact (get_pace_of_le htransport hbudget page.2 _ _ hfits
      (ih fun m hm => hfits m (Nat.le_trans hm (hnet _ _)))).2

theorem delay_visits_concat (seen : List (Nat × Option String)) (page : Nat × Option String)
    (hfits : ∀ m ≤ ((f.visits (seen ++ [page]) : Job κ (Site Nat) _).run now (f.newSite cache)).state.net,
      f.paceOf replies m < pow2 64) :
    let before := (f.visits seen : Job κ (Site Nat) _).run now (f.newSite cache)
    let o := (f.visits (seen ++ [page]) : Job κ (Site Nat) _).run now (f.newSite cache)
    ∃ value, o.value = before.value ++ [value] ∧
      o.state.delay + (if value.isExhausted then f.policy.step else 0) =
        pace f.policy.step before.state.delay
          (answersFrom replies before.state.net (o.state.net - before.state.net)) := by
  have hnet := net_visits_mono (κ := κ) htransport hbudget now (seen.prefix_append [page]) (f.newSite cache)
  have hle := delay_visits_le (κ := κ) htransport hbudget cache now seen fun m hm => hfits m (Nat.le_trans hm hnet)
  rw [run_visits_concat] at hfits ⊢
  exact ⟨_, rfl, (get_pace_of_le htransport hbudget page.2 _ _ hfits hle).1⟩

theorem delay_visits_eq_iff (pages : List (Nat × Option String))
    (hfits : ∀ m ≤ ((f.visits pages : Job κ (Site Nat) _).run now (f.newSite cache)).state.net,
      f.paceOf replies m < pow2 64) :
    let after (seen : List (Nat × Option String)) := (f.visits seen : Job κ (Site Nat) _).run now (f.newSite cache)
    (∀ seen, seen <+: pages → (after seen).state.delay = f.paceOf replies (after seen).state.net) ↔
      f.policy.step = 0 ∨ ∀ value ∈ (after pages).value, value.isExhausted = false := by
  intro after
  induction pages using List.reverseRecOn with
  | nil =>
    refine ⟨fun _ => .inr (fun _ hvalue => nomatch hvalue), fun _ seen hseen => ?_⟩
    rw [List.prefix_nil.mp hseen]
    rfl
  | append_singleton pages page ih =>
    have hprefix := pages.prefix_append [page]
    have hnet : (after pages).state.net ≤ (after (pages ++ [page])).state.net :=
      net_visits_mono htransport hbudget now hprefix _
    have ih := ih fun m hm => hfits m (Nat.le_trans hm hnet)
    obtain ⟨value, hvalue, hlaw⟩ := delay_visits_concat (κ := κ) htransport hbudget cache now pages page hfits
    change (after (pages ++ [page])).value = (after pages).value ++ [value] at hvalue
    -- from a delay that is what all answers make, the last visit comes to one that is so, or a step short of it
    have hlast (h : (after pages).state.delay = f.paceOf replies (after pages).state.net) :
        (after (pages ++ [page])).state.delay + (if value.isExhausted then f.policy.step else 0) =
          f.paceOf replies (after (pages ++ [page])).state.net := by
      rw [paceOf_eq f replies hnet, ← h]
      exact hlaw
    rw [hvalue, List.forall_mem_append, List.forall_mem_singleton]
    constructor
    · intro h
      have hbefore := h pages hprefix
      have hafter := h _ (List.prefix_refl _)
      rcases ih.mp fun seen hseen => h seen (hseen.trans hprefix) with hzero | hnone
      · exact .inl hzero
      · cases hexhausted : value.isExhausted with
        | false => exact .inr ⟨hnone, rfl⟩
        | true =>
          have hshort := hlast hbefore
          rw [hexhausted, if_pos rfl, hafter] at hshort
          exact .inl (Nat.add_eq_left.mp hshort)
    · intro h seen hseen
      have hbefore := ih.mpr (h.imp_right And.left)
      rcases List.prefix_concat_iff.mp hseen with rfl | hseen
      · have hshort := hlast (hbefore pages (List.prefix_refl _))
        rcases h with hzero | ⟨-, hnone⟩
        · rwa [hzero, ite_self, Nat.add_zero] at hshort
        · rwa [hnone, if_neg Bool.false_ne_true, Nat.add_zero] at hshort
      · exact hbefore seen hseen

/-- A visit changes the delay by each of its answers, but for the failure that uses up the attempts. So the
delay is what all answers so far make, after every visit, just when there is no such failure or steps count
for nothing. -/
theorem delay_visits_iff (pages : List (Nat × Option String))
    (hfits : ∀ m ≤ ((f.visits pages : Job κ (Site Nat) _).run now (f.newSite cache)).state.net,
      pace f.policy.step f.policy.step (answersFrom replies 0 m) < pow2 64) :
    let after (seen : List (Nat × Option String)) := (f.visits seen : Job κ (Site Nat) _).run now (f.newSite cache)
    (∀ seen page, seen ++ [page] <+: pages →
      ∃ value, (after (seen ++ [page])).value = (after seen).value ++ [value] ∧
        (after (seen ++ [page])).state.delay + (if value.isExhausted then f.policy.step else 0) =
          pace f.policy.step (after seen).state.delay
            (answersFrom replies (after seen).state.net
              ((after (seen ++ [page])).state.net - (after seen).state.net))) ∧
    ((∀ seen, seen <+: pages → (after seen).state.delay =
        pace f.policy.step f.policy.step (answersFrom replies 0 (after seen).state.net)) ↔
      f.policy.step = 0 ∨ ∀ value ∈ (after pages).value, value.isExhausted = false) := by
  refine ⟨fun seen page hseen => ?_, delay_visits_eq_iff htransport hbudget cache now pages hfits⟩
  exact delay_visits_concat htransport hbudget cache now seen page fun m hm =>
    hfits m (Nat.le_trans hm (net_visits_mono htransport hbudget now hseen _))

end

def hiccup : Nat → Reply
  | 0 => ⟨.page 500 "", 0⟩
  | _ => ⟨.page 200 "shoes", 0⟩

def asking (attempts : Nat) : Fetcher Nat where
  domain := { scheme := "https".toList, authority := some { host := .name "shop.test".toList }, path := ['/'] }
  policy := { attempts }
  transport := .stream hiccup
  clock _ := ⟨0, 0⟩

def nothingCached : PageCache := { ttl := 60, folder := .absent }

theorem delay_visits_iff_hiccup :
    let after (seen : List (Nat × Option String)) :=
      ((asking 2).visits seen : Job Unit (Site Nat) _).run 0 ((asking 2).newSite nothingCached)
    (∀ m ≤ (after [(0, none)]).state.net, pace 200 200 (answersFrom hiccup 0 m) < pow2 64) ∧
      ∀ seen, seen <+: [(0, none)] →
        (after seen).state.delay = pace 200 200 (answersFrom hiccup 0 (after seen).state.net) := by
  intro after
  have hfits : ∀ m ≤ (after [(0, none)]).state.net, pace 200 200 (answersFrom hiccup 0 m) < pow2 64 := by
    rw [show (after [(0, none)]).state.net = 2 by decide +kernel]
    decide
  refine ⟨hfits, (delay_visits_iff (κ := Unit) (f := asking 2) rfl rfl nothingCached 0 [(0, none)] hfits).2.mpr
    (.inr ?_)⟩
  decide +kernel

/-- The failure that uses up the attempts leaves the delay at one step, and two would be the answers' due. -/
theorem delay_of_exhausted_falls_short :
    let o := ((asking 1).visits [(0, none)] : Job Unit (Site Nat) _).run 0 ((asking 1).newSite nothingCached)
    o.state.net = 1 ∧ o.state.delay = 200 ∧ pace 200 200 (answersFrom hiccup 0 1) = 400 := by
  decide +kernel

end Fetcher
end Storefront
