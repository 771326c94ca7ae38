import Storefront.Fetch.Download
import Storefront.Proofs.Job.Run

/-! # What a download does by itself

A download that nothing can stop is a recursion over the answers that it gets.
-/
namespace Storefront

/-- Replies given one by one, and how many have been given. -/
def Transport.stream (replies : Nat → Reply) : Transport Nat where
  send _ _ n := (replies n, n + 1)

namespace Fetcher
open Job (run_seq run_act run_view)
variable {κ ν : Type}

theorem run_waitUntil (cancel : Option Nat) (wake now : Nat) (s : Site ν) :
    (waitUntil cancel wake : Job κ (Site ν) _).run now s =
      if isBy cancel wake then ⟨.error .cancelled, max now (cancel.getD wake), s⟩ else ⟨.ok (), max now wake, s⟩ := by
  unfold waitUntil
  split <;> rfl

theorem run_attempt (f : Fetcher ν) (url : String) (now : Nat) (s : Site ν) :
    (f.attempt none none url : Job κ (Site ν) _).run now s =
      let sent := f.transport.send url (now + s.delay) s.net
      ⟨.ok sent.1.answer, now + s.delay + sent.1.wait, { s with net := sent.2 }⟩ := by
  simp [attempt, request, waitWithin, run_waitUntil, run_seq, isBy]

/-- A download that nothing can stop, by its first answer. -/
theorem run_downloadWith (f : Fetcher ν) (url : String) (more now : Nat) (s : Site ν) :
    (f.downloadWith none none url more : Job κ (Site ν) _).run now s =
      let sent := f.transport.send url (now + s.delay) s.net
      let then' := now + s.delay + sent.1.wait
      let s' : Site ν := { s with net := sent.2 }
      match sent.1.answer.verdict with
      | .missing => ⟨.error (.notFound url), then', s'⟩
      | .found body => ⟨.ok body, then', s'.shrink f.policy.step⟩
      | .failed problem => match more with
        | 0 => ⟨.error (.exhausted url f.limit problem), then', s'⟩
        | more + 1 => (f.downloadWith none none url more : Job κ (Site ν) _).run then' (s'.grow f.policy.step) := by
  rw [downloadWith.eq_def]
  simp only [run_seq, run_attempt]
  cases (f.transport.send url (now + s.delay) s.net).1.answer.verdict with
  | missing => cases more <;> rfl
  | found body => cases more <;> rfl
  | failed problem => cases more <;> rfl

theorem exists_run_retry {f : Fetcher Nat} {replies : Nat → Reply} (htransport : f.transport = .stream replies)
    (url : String) (more now : Nat) {s : Site Nat} {problem : DownloadProblem}
    (h : (replies s.net).answer.verdict = .failed problem) :
    ∃ now' s', (f.downloadWith none none url (more + 1) : Job κ (Site Nat) _).run now s =
      (f.downloadWith none none url more : Job κ (Site Nat) _).run now' s' ∧ s'.net = s.net + 1 ∧
        s'.cache = s.cache ∧ s'.delay = (s.delay + f.policy.step) % pow2 64 := by
  refine ⟨now + s.delay + (replies s.net).wait, Site.grow f.policy.step { s with net := s.net + 1 }, ?_, rfl, rfl, rfl⟩
  rw [run_downloadWith]
  simp only [htransport, Transport.stream, h]

theorem run_get (f : Fetcher ν) (cancel : Option Nat) (uri : Option String) (now : Nat) (s : Site ν) :
    (f.get cancel uri : Job κ (Site ν) _).run now s =
      let url := f.resolve uri
      let found := s.cache.get (f.clock now) url
      let s' : Site ν := { s with cache := found.2 }
      match found.1 with
      | some content => ⟨.ok content, now, s'⟩
      | none =>
        if s.refuses then ⟨.error (.refused url), now, s'⟩
        else
          let o := (f.download cancel url : Job κ (Site ν) _).run now s'
          match o.value with
          | .error e => ⟨.error e, o.instant, o.state⟩
          | .ok content =>
            ⟨.ok content, o.instant, { o.state with cache := o.state.cache.put (f.clock o.instant) url content }⟩ := by
  simp only [get, run_seq, run_act]
  cases (s.cache.get (f.clock now) (f.resolve uri)).1 with
  | some content => rfl
  | none =>
    simp only [run_seq, run_view]
    cases s.refuses with
    | true => rfl
    | false =>
      simp only [Bool.false_eq_true, if_false, run_seq]
      generalize (f.download cancel (f.resolve uri) : Job κ (Site ν) _).run now _ = o
      obtain ⟨value, instant, state⟩ := o
      cases value with
      | error e => rfl
      | ok content => rfl

theorem run_get_of_cached {f : Fetcher ν} {cancel : Option Nat} {uri : Option String} {now : Nat} {s : Site ν}
    {content : String} (hcached : (s.cache.get (f.clock now) (f.resolve uri)).1 = some content) :
    (f.get cancel uri : Job κ (Site ν) _).run now s =
      ⟨.ok content, now, { s with cache := (s.cache.get (f.clock now) (f.resolve uri)).2 }⟩ := by
  rw [run_get]
  simp only [hcached]

theorem run_get_of_refused {f : Fetcher ν} {cancel : Option Nat} {uri : Option String} {now : Nat} {s : Site ν}
    (hmissed : (s.cache.get (f.clock now) (f.resolve uri)).1 = none) (hrefuses : s.refuses = true) :
    (f.get cancel uri : Job κ (Site ν) _).run now s =
      ⟨.error (.refused (f.resolve uri)), now, { s with cache := (s.cache.get (f.clock now) (f.resolve uri)).2 }⟩ := by
  rw [run_get]
  simp only [hmissed]
  rw [if_pos hrefuses]

theorem run_get_of_missed {f : Fetcher ν} {cancel : Option Nat} {uri : Option String} {now : Nat} {s : Site ν}
    {o : Job.Outcome (Site ν) (Attempt String)}
    (hmissed : (s.cache.get (f.clock now) (f.resolve uri)).1 = none) (hopen : s.refuses = false)
    (ho : (f.download cancel (f.resolve uri) : Job κ (Site ν) _).run now
      { s with cache := (s.cache.get (f.clock now) (f.resolve uri)).2 } = o) :
    (f.get cancel uri : Job κ (Site ν) _).run now s =
      ⟨o.value, o.instant, match o.value with
        | .error _ => o.state
        | .ok content =>
          { o.state with cache := o.state.cache.put (f.clock o.instant) (f.resolve uri) content }⟩ := by
  rw [run_get]
  simp only [hmissed]
  rw [if_neg (by simp [hopen]), ho]
  cases o.value with
  | error e => rfl
  | ok content => rfl

/-- Of a visit, only a download reaches what is behind the cache. -/
theorem get_cases (f : Fetcher ν) (cancel : Option Nat) (uri : Option String) (now : Nat) (s : Site ν) :
    let o := (f.get cancel uri : Job κ (Site ν) _).run now s
    (o.state.net = s.net ∧ o.state.delay = s.delay ∧
        ((∃ content, o.value = .ok content) ∨ o.value = .error (.refused (f.resolve uri)))) ∨
      ∃ s' : Site ν, s'.net = s.net ∧ s'.delay = s.delay ∧
        let d := (f.download cancel (f.resolve uri) : Job κ (Site ν) _).run now s'
        o.value = d.value ∧ o.state.net = d.state.net ∧ o.state.delay = d.state.delay := by
  cases hcached : (s.cache.get (f.clock now) (f.resolve uri)).1 with
  | some content =>
    rw [run_get_of_cached hcached]
    exact .inl ⟨rfl, rfl, .inl ⟨content, rfl⟩⟩
  | none =>
    cases hrefuses : s.refuses with
    | true =>
      rw [run_get_of_refused hcached hrefuses]
      exact .inl ⟨rfl, rfl, .inr rfl⟩
    | false =>
      rw [run_get_of_missed hcached hrefuses rfl]
      refine .inr ⟨{ s with cache := (s.cache.get (f.clock now) (f.resolve uri)).2 }, rfl, rfl, rfl, ?_⟩
      dsimp only
      split
      · exact ⟨rfl, rfl⟩
      · exact ⟨rfl, rfl⟩

theorem run_download (f : Fetcher ν) (hbudget : f.policy.budget = none) (cancel : Option Nat) (url : String) (now : Nat)
    (s : Site ν) : (f.download cancel url : Job κ (Site ν) _).run now s =
      (f.downloadWith cancel none url (f.limit - 1) : Job κ (Site ν) _).run now s := by
  rw [download, run_seq, Job.run_instant, hbudget]
  rfl

end Fetcher
end Storefront
