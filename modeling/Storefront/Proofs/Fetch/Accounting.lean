import Mathlib.Data.ENat.Lattice
import Storefront.Proofs.Fetch.Attempts
import Storefront.Proofs.Fetch.Cache

/-! # How many requests a page takes

A site answers one request after the other, for ever. A page is asked for until an answer settles the
matter or the attempts are used up: neither once more nor once less.
-/
namespace Storefront

namespace Answer

/-- Whether an answer ends a download: the page is gone, or here it is. -/
def Settles : Answer → Prop
  | page status body => status = 404 ∨ 200 ≤ status ∧ status < 300 ∧ body ≠ ""
  | problem _ => False

/-- What is wrong with an answer that does not end a download. -/
def complaint : Answer → String
  | page status _ => if 200 ≤ status ∧ status < 300 then "got empty result from the server" else s!"HTTP {status}"
  | problem p => p.message

theorem verdict_of_settles {a : Answer} (h : a.Settles) :
    (∃ body, a = page 404 body ∧ a.verdict = .missing) ∨
      ∃ status body, a = page status body ∧ 200 ≤ status ∧ status < 300 ∧ a.verdict = .found body := by
  cases a with
  | problem p => exact h.elim
  | page status body =>
    rcases h with rfl | ⟨hlow, hhigh, hbody⟩
    · exact .inl ⟨body, rfl, rfl⟩
    · refine .inr ⟨status, body, rfl, hlow, hhigh, ?_⟩
      rw [verdict, if_neg (by omega), if_pos ⟨hlow, hhigh⟩, if_neg (by simpa using hbody)]

theorem verdict_of_not_settles {a : Answer} (h : ¬ a.Settles) :
    ∃ problem, a.verdict = .failed problem ∧ problem.message = a.complaint := by
  cases a with
  | problem p => exact ⟨p, rfl, rfl⟩
  | page status body =>
    simp only [Settles, not_or] at h
    rw [verdict, if_neg h.1, complaint]
    split
    · rename_i hrange
      have hbody : body.isEmpty = true := by
        by_contra hne
        exact h.2 ⟨hrange.1, hrange.2, by simpa using hne⟩
      exact ⟨.emptyPage, if_pos hbody, rfl⟩
    · exact ⟨.status status, rfl, rfl⟩

end Answer

/-- Counted from one, the number of the first answer that settles the matter. -/
noncomputable def firstSettled (answers : ℕ → Answer) : ℕ∞ :=
  ⨅ (i : ℕ) (_ : (answers i).Settles), ((i + 1 : ℕ) : ℕ∞)

theorem firstSettled_eq {answers : ℕ → Answer} {i : ℕ} (h : (answers i).Settles)
    (hbefore : ∀ j < i, ¬ (answers j).Settles) : firstSettled answers = (i + 1 : ℕ) := by
  refine le_antisymm (iInf₂_le i h) (le_iInf₂ fun j hj => ?_)
  have hij : i ≤ j := not_lt.mp fun hlt => hbefore j hlt hj
  exact_mod_cast Nat.succ_le_succ hij

theorem lt_firstSettled {answers : ℕ → Answer} {n : ℕ} (h : ∀ i < n, ¬ (answers i).Settles) :
    (n : ℕ∞) < firstSettled answers := by
  have hle : ((n + 1 : ℕ) : ℕ∞) ≤ firstSettled answers := by
    refine le_iInf₂ fun i hi => ?_
    have hni : n ≤ i := not_lt.mp fun hlt => h i hlt hi
    exact_mod_cast Nat.succ_le_succ hni
  exact lt_of_lt_of_le (by exact_mod_cast Nat.lt_succ_self n) hle

/-- How a download of a page can end that has so many attempts: with what, and after how many requests. -/
inductive Ends (url : String) (attempts : ℕ) (answers : ℕ → Answer) : Attempt String → ℕ → Prop
  | gone {i : ℕ} {body : String} (within : i < attempts) (first : firstSettled answers = (i + 1 : ℕ))
      (answer : answers i = .page 404 body) : Ends url attempts answers (.error (.notFound url)) (i + 1)
  | found {i status : ℕ} {body : String} (within : i < attempts) (first : firstSettled answers = (i + 1 : ℕ))
      (success : 200 ≤ status ∧ status < 300) (answer : answers i = .page status body) :
      Ends url attempts answers (.ok body) (i + 1)
  | unsettled {problem : DownloadProblem} (first : attempts < firstSettled answers)
      (message : problem.message = (answers (attempts - 1)).complaint) :
      Ends url attempts answers (.error (.exhausted url attempts problem)) attempts

namespace Ends
variable {url : String} {attempts requests : ℕ} {answers : ℕ → Answer} {value : Attempt String}

theorem requests_eq (h : Ends url attempts answers value requests) :
    (requests : ℕ∞) = min (firstSettled answers) attempts := by
  cases h with
  | gone within first answer => rw [first, min_eq_left (by exact_mod_cast within)]
  | found within first success answer => rw [first, min_eq_left (by exact_mod_cast within)]
  | unsettled first message => rw [min_eq_right first.le]

theorem eq_of_first {i j : ℕ} (hi : firstSettled answers = (i + 1 : ℕ)) (hj : firstSettled answers = (j + 1 : ℕ)) :
    i = j := by
  rw [hi] at hj
  exact Nat.succ_injective (by exact_mod_cast hj)

theorem not_lt_of_first {i : ℕ} (within : i < attempts) (hi : firstSettled answers = (i + 1 : ℕ)) :
    ¬ (attempts : ℕ∞) < firstSettled answers := by
  rw [hi, not_lt]
  exact_mod_cast within

theorem ok_iff (h : Ends url attempts answers value requests) (body : String) :
    value = .ok body ↔ ∃ i < attempts, firstSettled answers = (i + 1 : ℕ) ∧
      ∃ status, 200 ≤ status ∧ status < 300 ∧ answers i = .page status body := by
  constructor
  · rintro rfl
    cases h with
    | found within first success answer => exact ⟨_, within, first, _, success.1, success.2, answer⟩
  · rintro ⟨i, hi, hfirst, status, hlow, hhigh, hanswer⟩
    cases h with
    | gone within first answer =>
      obtain rfl := eq_of_first first hfirst
      rw [hanswer, Answer.page.injEq] at answer
      omega
    | found within first success answer =>
      obtain rfl := eq_of_first first hfirst
      rw [hanswer, Answer.page.injEq] at answer
      rw [answer.2]
    | unsettled first message => exact absurd first (not_lt_of_first hi hfirst)

theorem notFound_iff (h : Ends url attempts answers value requests) :
    value = .error (.notFound url) ↔ ∃ i < attempts, firstSettled answers = (i + 1 : ℕ) ∧
      ∃ body, answers i = .page 404 body := by
  constructor
  · rintro rfl
    cases h with
    | gone within first answer => exact ⟨_, within, first, _, answer⟩
  · rintro ⟨i, hi, hfirst, body, hanswer⟩
    cases h with
    | gone within first answer => rfl
    | found within first success answer =>
      obtain rfl := eq_of_first first hfirst
      rw [hanswer, Answer.page.injEq] at answer
      omega
    | unsettled first message => exact absurd first (not_lt_of_first hi hfirst)

theorem exhausted_iff (h : Ends url attempts answers value requests) :
    (∃ problem, value = .error (.exhausted url attempts problem) ∧
      problem.message = (answers (attempts - 1)).complaint) ↔ attempts < firstSettled answers := by
  constructor
  · rintro ⟨problem, rfl, -⟩
    cases h with
    | unsettled first message => exact first
  · intro hlt
    cases h with
    | gone within first answer => exact absurd hlt (not_lt_of_first within first)
    | found within first success answer => exact absurd hlt (not_lt_of_first within first)
    | unsettled first message => exact ⟨_, rfl, message⟩

end Ends

namespace Fetcher
variable {κ : Type}

section
variable {f : Fetcher ℕ} {replies : ℕ → Reply} (htransport : f.transport = .stream replies)
include htransport

theorem run_of_unsettled (url : String) (more now : ℕ) {s : Site ℕ}
    (h : ∀ i ≤ more, ¬ (replies (s.net + i)).answer.Settles) :
    let o := (f.downloadWith none none url more : Job κ (Site ℕ) _).run now s
    o.state.net = s.net + (more + 1) ∧ o.state.cache = s.cache ∧ ∃ problem,
      o.value = .error (.exhausted url f.limit problem) ∧
        problem.message = (replies (s.net + more)).answer.complaint := by
  induction more generalizing now s with
  | zero =>
    obtain ⟨problem, hverdict, hmessage⟩ := Answer.verdict_of_not_settles (h 0 le_rfl)
    rw [run_downloadWith]
    rw [Nat.add_zero] at hverdict
    simp only [htransport, Transport.stream, hverdict]
    exact ⟨trivial, trivial, problem, rfl, hmessage⟩
  | succ more ih =>
    obtain ⟨problem, hverdict, -⟩ := Answer.verdict_of_not_settles (h 0 (Nat.zero_le _))
    obtain ⟨now', s', hrun, hnet, hcache, -⟩ := exists_run_retry (κ := κ) htransport url more now hverdict
    have hshift (i : ℕ) : s'.net + i = s.net + (i + 1) := by omega
    rw [hrun, ← hcache, ← hshift more, show s.net + (more + 1 + 1) = s'.net + (more + 1) by omega]
    exact ih now' fun i hi => hshift i ▸ h (i + 1) (Nat.succ_le_succ hi)

theorem run_of_settled (url : String) {more i : ℕ} (now : ℕ) {s : Site ℕ} (hi : i ≤ more)
    (h : (replies (s.net + i)).answer.Settles) (hbefore : ∀ j < i, ¬ (replies (s.net + j)).answer.Settles) :
    let o := (f.downloadWith none none url more : Job κ (Site ℕ) _).run now s
    o.state.net = s.net + (i + 1) ∧ o.state.cache = s.cache ∧
      ((∃ body, (replies (s.net + i)).answer = .page 404 body ∧ o.value = .error (.notFound url)) ∨
        ∃ status body, (replies (s.net + i)).answer = .page status body ∧ 200 ≤ status ∧ status < 300 ∧
          o.value = .ok body) := by
  induction i generalizing more now s with
  | zero =>
    rw [run_downloadWith]
    rw [Nat.add_zero] at h ⊢
    rcases Answer.verdict_of_settles h with ⟨body, hanswer, hverdict⟩ | ⟨status, body, hanswer, hlow, hhigh, hverdict⟩
    · simp only [htransport, Transport.stream, hverdict]
      exact ⟨trivial, trivial, .inl ⟨body, hanswer, trivial⟩⟩
    · simp only [htransport, Transport.stream, hverdict]
      exact ⟨rfl, rfl, .inr ⟨status, body, hanswer, hlow, hhigh, rfl⟩⟩
  | succ i ih =>
    obtain ⟨more, rfl⟩ := Nat.exists_eq_add_one_of_ne_zero (Nat.ne_zero_of_lt hi)
    obtain ⟨problem, hverdict, -⟩ := Answer.verdict_of_not_settles (hbefore 0 (Nat.succ_pos i))
    obtain ⟨now', s', hrun, hnet, hcache, -⟩ := exists_run_retry (κ := κ) htransport url more now hverdict
    have hshift (j : ℕ) : s.net + (j + 1) = s'.net + j := by omega
    rw [hrun, ← hcache, hshift i, show s.net + (i + 1 + 1) = s'.net + (i + 1) by omega]
    exact ih now' (Nat.le_of_succ_le_succ hi) (hshift i ▸ h) fun j hj =>
      hshift j ▸ hbefore (j + 1) (Nat.succ_lt_succ hj)

/-- A download ends with the first answer that settles the matter, or when there have been as many as there are
attempts. -/
theorem download_ends (hbudget : f.policy.budget = none) (url : String) (now : ℕ) (s : Site ℕ) :
    let o := (f.download none url : Job κ (Site ℕ) _).run now s
    ∃ requests, o.state.net = s.net + requests ∧ o.state.cache = s.cache ∧
      Ends url f.limit (fun i => (replies (s.net + i)).answer) o.value requests := by
  intro o
  have hlimit : f.limit - 1 + 1 = f.limit := Nat.sub_add_cancel (Nat.le_max_left 1 f.policy.attempts)
  have ho : o = (f.downloadWith none none url (f.limit - 1) : Job κ (Site ℕ) _).run now s :=
    run_download f hbudget none url now s
  by_cases hex : ∃ i, i < f.limit ∧ (replies (s.net + i)).answer.Settles
  · classical
    obtain ⟨hi, hsettles⟩ := Nat.find_spec hex
    have hbefore : ∀ j < Nat.find hex, ¬ (replies (s.net + j)).answer.Settles := fun j hj h =>
      Nat.find_min hex hj ⟨hj.trans hi, h⟩
    have hfirst : firstSettled (fun i => (replies (s.net + i)).answer) = (Nat.find hex + 1 : ℕ) :=
      firstSettled_eq hsettles hbefore
    obtain ⟨hnet, hcache, hvalue⟩ :=
      run_of_settled (κ := κ) htransport url now (Nat.le_sub_one_of_lt hi) hsettles hbefore
    refine ⟨_, ho ▸ hnet, ho ▸ hcache, ?_⟩
    rcases hvalue with ⟨body, hanswer, hvalue⟩ | ⟨status, body, hanswer, hlow, hhigh, hvalue⟩
    · rw [ho, hvalue]
      exact .gone hi hfirst hanswer
    · rw [ho, hvalue]
      exact .found hi hfirst ⟨hlow, hhigh⟩ hanswer
  · have hnone : ∀ i < f.limit, ¬ (replies (s.net + i)).answer.Settles := fun i hi h => hex ⟨i, hi, h⟩
    obtain ⟨hnet, hcache, problem, hvalue, hmessage⟩ := run_of_unsettled (κ := κ) htransport url (f.limit - 1) now
      fun i hi => hnone i (by omega)
    rw [hlimit] at hnet
    refine ⟨_, ho ▸ hnet, ho ▸ hcache, ?_⟩
    rw [ho, hvalue]
    exact .unsettled (lt_firstSettled hnone) hmessage

/-- A page that is not in the cache is asked for up to the first answer that settles the matter, and not more
often than there are attempts. The caller has what that answer says, or what was wrong with the last one. The
cache takes in the page that was found, which is found there for as long as it is fresh, and nothing else. -/
theorem get_accounts (hbudget : f.policy.budget = none) (uri : Option String) (now : ℕ) {s : Site ℕ}
    (hmissed : (s.cache.get (f.clock now) (f.resolve uri)).1 = none) (hopen : s.refuses = false) :
    let url := f.resolve uri
    let answers (i : ℕ) : Answer := (replies (s.net + i)).answer
    let n := max 1 f.policy.attempts
    let k := firstSettled answers
    let o := (f.get none uri : Job κ (Site ℕ) _).run now s
    (∃ requests, o.state.net = s.net + requests ∧ (requests : ℕ∞) = min k n) ∧
      (∀ body, o.value = .ok body ↔
        ∃ i < n, k = (i + 1 : ℕ) ∧ ∃ status, 200 ≤ status ∧ status < 300 ∧ answers i = .page status body) ∧
      (o.value = .error (.notFound url) ↔ ∃ i < n, k = (i + 1 : ℕ) ∧ ∃ body, answers i = .page 404 body) ∧
      ((∃ problem, o.value = .error (.exhausted url n problem) ∧ problem.message = (answers (n - 1)).complaint) ↔
        n < k) ∧
      match o.value with
      | .ok body => o.state.cache = (s.cache.get (f.clock now) url).2.put (f.clock o.instant) url body ∧
          ∀ later, (o.state.cache.get later url).1 =
            if PageCache.isFresh s.cache.ttl (f.clock o.instant) later then some body else none
      | .error _ => o.state.cache.HoldsNoMore s.cache := by
  intro url answers n k o
  obtain ⟨requests, hnet, hcache, hends⟩ := download_ends (κ := κ) htransport hbudget url now
    { s with cache := (s.cache.get (f.clock now) url).2 }
  generalize hd : (f.download none url : Job κ (Site ℕ) _).run now _ = d at hnet hcache hends
  rw [show o = _ from run_get_of_missed hmissed hopen hd]
  refine ⟨⟨requests, ?_, hends.requests_eq⟩, hends.ok_iff, hends.notFound_iff, hends.exhausted_iff, ?_⟩
  · cases hvalue : d.value with
    | ok body => simpa only [hvalue] using hnet
    | error e => simpa only [hvalue] using hnet
  · cases hvalue : d.value with
    | ok body =>
      simp only [hcache, url]
      refine ⟨trivial, fun later => ?_⟩
      rw [PageCache.get_put, PageCache.get_ttl]
    | error e =>
      simp only [hcache]
      exact PageCache.get_holdsNoMore hmissed

end

def reluctant : ℕ → Reply
  | 0 => ⟨.page 500 "", 0⟩
  | 1 => ⟨.page 200 "", 0⟩
  | _ => ⟨.page 200 "shoes", 0⟩

def patient : Fetcher ℕ where
  domain := { scheme := "https".toList, authority := some { host := .name "shop.test".toList }, path := ['/'] }
  policy := { attempts := 3 }
  transport := .stream reluctant
  clock _ := ⟨0, 0⟩

def opened : Site ℕ := { delay := 200, cache := { ttl := 60, folder := .files {} }, net := 0 }

theorem get_accounts_reluctant :
    (opened.cache.get (patient.clock 0) (patient.resolve none)).1 = none ∧ opened.refuses = false ∧
      let o := (patient.get none none : Job Unit (Site ℕ) _).run 0 opened
      o.state.net = 3 ∧ o.value = .ok "shoes" := by
  have hmissed : (opened.cache.get (patient.clock 0) (patient.resolve none)).1 = none := rfl
  have hfirst : firstSettled (fun i => (reluctant (opened.net + i)).answer) = (2 + 1 : ℕ) :=
    firstSettled_eq (.inr ⟨by decide, by decide, by decide⟩) fun j hj => by
      match j, hj with
      | 0, _ => simp [opened, reluctant, Answer.Settles]
      | 1, _ => simp [opened, reluctant, Answer.Settles]
  obtain ⟨⟨requests, hnet, hrequests⟩, hok, -⟩ :=
    get_accounts (κ := Unit) (f := patient) rfl rfl none 0 hmissed rfl
  refine ⟨hmissed, rfl, ?_, (hok "shoes").mpr ⟨2, by decide, hfirst, 200, by decide, by decide, rfl⟩⟩
  rw [hfirst] at hrequests
  have : requests = 3 := Nat.cast_injective (hrequests.trans (min_self ((3 : ℕ) : ℕ∞)))
  rw [hnet, this]
  rfl

end Fetcher
end Storefront
