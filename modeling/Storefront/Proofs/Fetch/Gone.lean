import Storefront.Proofs.Fetch.Record

/-! # Pages that are gone

A download comes to say that the page is gone just when the last of its requests has been answered so, and in time. A
visit of a page that is in the cache, or that the site refuses, asks for nothing and never says so.
-/
namespace Storefront
open Attempt

theorem Answer.verdict_eq_missing_iff {a : Answer} : a.verdict = .missing ↔ ∃ body, a = .page 404 body := by
  cases a with
  | problem p => simp [verdict]
  | page status body =>
    by_cases hstatus : status = 404
    · simp [verdict, hstatus]
    · rw [verdict, if_neg hstatus]
      constructor
      · intro h
        split at h
        · split at h
          · cases h
          · cases h
        · cases h
      · rintro ⟨body', h⟩
        cases h
        exact absurd rfl hstatus

/-- Whether an attempt has failed because the page is gone. -/
def Attempt.IsGone {α : Type} (a : Attempt α) : Prop := ∃ url, a = .error (.notFound url)

/-- The failures that do not say of a page that it is gone. -/
def Failure.IsOther (f : Failure) : Prop := ∀ url, f ≠ .notFound url

namespace Failure

theorem isOther_cancelled : IsOther .cancelled := by
  intro url h
  cases h

theorem isOther_outOfTime (url : String) : IsOther (.outOfTime url) := by
  intro url' h
  cases h

theorem isOther_refused (url : String) : IsOther (.refused url) := by
  intro url' h
  cases h

theorem isOther_exhausted (url : String) (attempts : Nat) (last : DownloadProblem) :
    IsOther (.exhausted url attempts last) := by
  intro url' h
  cases h

end Failure

namespace Attempt
variable {α : Type}

theorem not_isGone_ok (x : α) : ¬ IsGone (.ok x : Attempt α) := by
  rintro ⟨url, h⟩
  cases h

theorem not_isGone_error {f : Failure} (h : f.IsOther) : ¬ IsGone (.error f : Attempt α) := by
  rintro ⟨url, hgone⟩
  exact h url (Except.error.inj hgone)

end Attempt

namespace Request

/-- Whether the answer comes before a download is cancelled and before it is out of time. -/
def IsInTime (cancel deadline : Option Nat) (r : Request) : Prop :=
  isBy cancel r.arrival = false ∧ isBy deadline r.arrival = false

/-- Whether the last of these requests has been answered, in time, that there is no page at this address. -/
def EndGone (cancel deadline : Option Nat) (url : String) (sent : List Request) : Prop :=
  ∃ r, sent.getLast? = some r ∧ r.url = url ∧ (∃ body, r.reply.answer = .page 404 body) ∧ r.IsInTime cancel deadline

section
variable {cancel deadline : Option Nat} {url : String} {r : Request} {sent : List Request}

theorem not_endGone_nil : ¬ EndGone cancel deadline url [] := by
  rintro ⟨r, hlast, -⟩
  cases hlast

theorem endGone_singleton_iff : EndGone cancel deadline url [r] ↔
    r.url = url ∧ r.reply.answer.verdict = .missing ∧ r.IsInTime cancel deadline := by
  simp [EndGone, Answer.verdict_eq_missing_iff]

theorem endGone_cons_iff (h : r.reply.answer.verdict ≠ .missing) :
    EndGone cancel deadline url (r :: sent) ↔ EndGone cancel deadline url sent := by
  cases sent with
  | nil =>
    refine iff_of_false ?_ not_endGone_nil
    rw [endGone_singleton_iff]
    exact fun hgone => h hgone.2.1
  | cons r' rest => rw [EndGone, EndGone, List.getLast?_cons_cons]

end
end Request

namespace Fetcher
open Job (run_seq run_act run_view)
variable {κ ν : Type}

theorem waitWithin_value (cancel deadline : Option Nat) (url : String) (wake now : Nat) (s : Site ν) :
    let o := (waitWithin cancel deadline url wake : Job κ (Site ν) _).run now s
    (isBy cancel wake = false ∧ isBy deadline wake = false ∧ o.value = .ok ()) ∨
      (¬ (isBy cancel wake = false ∧ isBy deadline wake = false) ∧ ∃ f, f.IsOther ∧ o.value = .error f) := by
  have huntil (wake : Nat) : let o := (waitUntil cancel wake : Job κ (Site ν) _).run now s
      (isBy cancel wake = false ∧ o.value = .ok ()) ∨ (isBy cancel wake = true ∧ o.value = .error .cancelled) := by
    rw [run_waitUntil]
    cases isBy cancel wake with
    | true => exact .inr ⟨rfl, rfl⟩
    | false => exact .inl ⟨rfl, rfl⟩
  have hfree (hintime : isBy deadline wake = false) : let o := (waitUntil cancel wake : Job κ (Site ν) _).run now s
      (isBy cancel wake = false ∧ isBy deadline wake = false ∧ o.value = .ok ()) ∨
        (¬ (isBy cancel wake = false ∧ isBy deadline wake = false) ∧ ∃ f, f.IsOther ∧ o.value = .error f) := by
    rcases huntil wake with ⟨hgoes, hvalue⟩ | ⟨hstops, hvalue⟩
    · exact .inl ⟨hgoes, hintime, hvalue⟩
    · refine .inr ⟨?_, .cancelled, Failure.isOther_cancelled, hvalue⟩
      simp [hstops]
  unfold waitWithin
  cases deadline with
  | none => exact hfree rfl
  | some limit =>
    by_cases hlimit : limit ≤ wake
    · have hlate : isBy (some limit) wake = true := by simpa [isBy] using hlimit
      simp only [if_pos hlimit, run_seq]
      refine .inr ⟨by simp [hlate], ?_⟩
      rcases huntil limit with ⟨-, hvalue⟩ | ⟨-, hvalue⟩
      · rw [hvalue]
        exact ⟨.outOfTime url, Failure.isOther_outOfTime url, rfl⟩
      · rw [hvalue]
        exact ⟨.cancelled, Failure.isOther_cancelled, rfl⟩
    · simp only [if_neg hlimit]
      exact hfree (by simpa [isBy] using hlimit)

/-- What an attempt comes to: it has not asked, or it has not been answered in time, or it has been. -/
inductive Asks (cancel deadline : Option Nat) (url : String) (s : Site (ν × List Request)) :
    Job.Outcome (Site (ν × List Request)) (Attempt Answer) → Prop
  | never {f : Failure} {later : Nat} {s' : Site (ν × List Request)} (other : f.IsOther)
      (record : s'.record = s.record) : Asks cancel deadline url s ⟨.error f, later, s'⟩
  | invain {f : Failure} {later : Nat} {s' : Site (ν × List Request)} {r : Request} (other : f.IsOther)
      (late : ¬ r.IsInTime cancel deadline) (record : s'.record = s.record ++ [r]) :
      Asks cancel deadline url s ⟨.error f, later, s'⟩
  | answered {later : Nat} {s' : Site (ν × List Request)} {r : Request} (url_eq : r.url = url)
      (intime : r.IsInTime cancel deadline) (record : s'.record = s.record ++ [r]) :
      Asks cancel deadline url s ⟨.ok r.reply.answer, later, s'⟩

theorem request_asks (f : Fetcher ν) (cancel deadline : Option Nat) (url : String) (now : Nat)
    (s : Site (ν × List Request)) :
    Asks cancel deadline url s
      ((f.recorded.request cancel deadline url : Job κ (Site (ν × List Request)) _).run now s) := by
  rw [request, run_seq, Job.run_instant]
  dsimp only
  by_cases hlate : isBy deadline now = true
  · rw [if_pos hlate]
    exact .never (Failure.isOther_outOfTime url) rfl
  · rw [if_neg hlate, run_seq, run_act, run_seq]
    dsimp only
    generalize hs' : ({ s with net := (f.recorded.transport.send url now s.net).2 } : Site (ν × List Request)) = s'
    generalize hreply : (f.recorded.transport.send url now s.net).1 = reply
    have hrecord : s'.record = s.record ++ [⟨url, now, reply⟩] := by rw [← hs', ← hreply]; rfl
    obtain ⟨hstate, -⟩ := run_waitWithin (κ := κ) cancel deadline url (now + reply.wait) now s'
    have hwait := waitWithin_value (κ := κ) cancel deadline url (now + reply.wait) now s'
    generalize (waitWithin cancel deadline url (now + reply.wait) : Job κ (Site (ν × List Request)) _).run now s' = w
      at hstate hwait ⊢
    subst hstate
    rcases hwait with ⟨hgoes, hintime, hvalue⟩ | ⟨hlate, e, hother, hvalue⟩
    · rw [hvalue]
      exact .answered (r := ⟨url, now, reply⟩) rfl ⟨hgoes, hintime⟩ hrecord
    · rw [hvalue]
      exact .invain (r := ⟨url, now, reply⟩) hother hlate hrecord

theorem attempt_asks (f : Fetcher ν) (cancel deadline : Option Nat) (url : String) (now : Nat)
    (s : Site (ν × List Request)) :
    Asks cancel deadline url s
      ((f.recorded.attempt cancel deadline url : Job κ (Site (ν × List Request)) _).run now s) := by
  rw [attempt, run_seq, run_view]
  dsimp only
  by_cases hlate : (deadline.any fun limit => decide (limit < now + s.delay)) = true
  · rw [if_pos hlate]
    exact .never (Failure.isOther_outOfTime url) rfl
  · rw [if_neg hlate, run_seq, run_waitUntil]
    by_cases hcancelled : isBy cancel (now + s.delay) = true
    · rw [if_pos hcancelled]
      exact .never Failure.isOther_cancelled rfl
    · rw [if_neg hcancelled]
      exact f.request_asks cancel deadline url _ s

/-- What a download has asked for, and whether it says that the page is gone. -/
def Settles (cancel deadline : Option Nat) (url : String) (s : Site (ν × List Request))
    (o : Job.Outcome (Site (ν × List Request)) (Attempt String)) : Prop :=
  ∃ sent, o.state.record = s.record ++ sent ∧ (IsGone o.value ↔ Request.EndGone cancel deadline url sent)

theorem downloadWith_settles (f : Fetcher ν) (cancel deadline : Option Nat) (url : String) (more now : Nat)
    (s : Site (ν × List Request)) :
    Settles cancel deadline url s
      ((f.recorded.downloadWith cancel deadline url more : Job κ (Site (ν × List Request)) _).run now s) := by
  induction more using Nat.strongRecOn generalizing now s with
  | ind more ih =>
    rw [downloadWith.eq_def, run_seq]
    have hasks := f.attempt_asks (κ := κ) cancel deadline url now s
    generalize (f.recorded.attempt cancel deadline url : Job κ (Site (ν × List Request)) _).run now s = a at hasks ⊢
    cases hasks with
    | never other record =>
      exact ⟨[], by rw [List.append_nil]; exact record,
        iff_of_false (not_isGone_error other) Request.not_endGone_nil⟩
    | @invain e later s' r other late record =>
      refine ⟨[r], record, iff_of_false (not_isGone_error other) ?_⟩
      rw [Request.endGone_singleton_iff]
      exact fun hgone => late hgone.2.2
    | @answered later s' r url_eq intime record =>
      have hother (h : r.reply.answer.verdict ≠ .missing) : ¬ Request.EndGone cancel deadline url [r] := by
        rw [Request.endGone_singleton_iff]
        exact fun hgone => h hgone.2.1
      dsimp only
      cases hverdict : r.reply.answer.verdict with
      | missing =>
        exact ⟨[r], record, iff_of_true ⟨url, rfl⟩ (Request.endGone_singleton_iff.mpr ⟨url_eq, hverdict, intime⟩)⟩
      | found body => exact ⟨[r], record, iff_of_false (not_isGone_ok body) (hother (by simp [hverdict]))⟩
      | failed problem =>
        cases more with
        | zero =>
          exact ⟨[r], record, iff_of_false (not_isGone_error (Failure.isOther_exhausted url f.limit problem))
            (hother (by simp [hverdict]))⟩
        | succ more =>
          obtain ⟨sent, hsent, hgone⟩ := ih more (Nat.lt_succ_self more) later (s'.grow f.recorded.policy.step)
          refine ⟨r :: sent, ?_, hgone.trans (Request.endGone_cons_iff (by simp [hverdict])).symm⟩
          calc _ = s'.record ++ sent := hsent
            _ = s.record ++ r :: sent := by rw [record, List.append_assoc, List.singleton_append]

/-- A visit of a page says that it is gone just when the last request of it has been answered so in time. -/
theorem get_settles (f : Fetcher ν) (cancel : Option Nat) (uri : Option String) (now : Nat)
    (s : Site (ν × List Request)) :
    Settles cancel (f.policy.budget.map (now + ·)) (f.resolve uri) s
      ((f.recorded.get cancel uri : Job κ (Site (ν × List Request)) _).run now s) := by
  cases hcached : (s.cache.get (f.clock now) (f.resolve uri)).1 with
  | some content =>
    rw [run_get_of_cached (f := f.recorded) hcached]
    exact ⟨[], (List.append_nil _).symm, iff_of_false (not_isGone_ok content) Request.not_endGone_nil⟩
  | none =>
    cases hrefuses : s.refuses with
    | true =>
      rw [run_get_of_refused (f := f.recorded) hcached hrefuses]
      exact ⟨[], (List.append_nil _).symm,
        iff_of_false (not_isGone_error (Failure.isOther_refused _)) Request.not_endGone_nil⟩
    | false =>
      have hdownload : Settles cancel (f.policy.budget.map (now + ·)) (f.resolve uri) s
          ((f.recorded.download cancel (f.resolve uri) : Job κ (Site (ν × List Request)) _).run now
            { s with cache := (s.cache.get (f.clock now) (f.resolve uri)).2 }) := by
        rw [download, run_seq, Job.run_instant]
        exact f.downloadWith_settles cancel _ (f.resolve uri) _ now _
      generalize hd : (f.recorded.download cancel (f.resolve uri) : Job κ (Site (ν × List Request)) _).run now _ = d
        at hdownload
      rw [run_get_of_missed (f := f.recorded) hcached hrefuses hd]
      obtain ⟨sent, hsent, hgone⟩ := hdownload
      refine ⟨sent, ?_, hgone⟩
      dsimp only
      split
      · exact hsent
      · exact hsent

end Fetcher
end Storefront
