import Storefront.Proofs.Attempt
import Storefront.Proofs.Fetch.Attempts

/-! # Where pages come from

A transport can keep a record of the requests. Whatever a site then has of a page, cancelled or not and with
a deadline or without one, has come with a reply in the record.
-/
namespace Storefront

/-- A request that has been made: for what and when, and the reply. -/
structure Request where
  url : String
  sent : Nat
  reply : Reply
deriving DecidableEq

namespace Request

/-- The instant of the answer. -/
def arrival (r : Request) : Nat := r.sent + r.reply.wait

/-- Whether a request has brought this page from this address. -/
def Brings (r : Request) (url content : String) : Prop := r.url = url ∧ r.reply.answer.verdict = .found content

end Request

/-- A transport with a record of the requests made to it. -/
def Transport.recorded {ν : Type} (t : Transport ν) : Transport (ν × List Request) where
  send url now s :=
    let (reply, net) := t.send url now s.1
    (reply, net, s.2 ++ [⟨url, now, reply⟩])

namespace Site
variable {ν : Type}

def record (s : Site (ν × List Request)) : List Request := s.net.2

/-- Whether a site has at most asked for more: its cache is as before, and so is the record up to here. -/
def HasAsked (s s' : Site (ν × List Request)) : Prop := s'.cache = s.cache ∧ s.record <+: s'.record

theorem hasAsked_refl (s : Site (ν × List Request)) : s.HasAsked s := ⟨rfl, List.prefix_refl _⟩

theorem HasAsked.trans {s s' s'' : Site (ν × List Request)} (h : s.HasAsked s') (h' : s'.HasAsked s'') :
    s.HasAsked s'' := ⟨h'.1.trans h.1, h.2.trans h'.2⟩

end Site

namespace Fetcher
open Job (run_seq run_act run_view)
variable {κ ν : Type}

def recorded (f : Fetcher ν) : Fetcher (ν × List Request) where
  domain := f.domain
  policy := f.policy
  transport := f.transport.recorded
  clock := f.clock

theorem run_waitWithin (cancel deadline : Option Nat) (url : String) (wake now : Nat) (s : Site ν) :
    let o := (waitWithin cancel deadline url wake : Job κ (Site ν) _).run now s
    o.state = s ∧ (o.value = .ok () → o.instant = max now wake) := by
  have huntil : let o := (waitUntil cancel wake : Job κ (Site ν) _).run now s
      o.state = s ∧ (o.value = .ok () → o.instant = max now wake) := by
    rw [run_waitUntil]
    cases isBy cancel wake with
    | true => exact ⟨rfl, Attempt.of_error_eq_ok⟩
    | false => exact ⟨rfl, fun _ => rfl⟩
  unfold waitWithin
  cases deadline with
  | none => exact huntil
  | some limit =>
    by_cases hlimit : limit ≤ wake
    · simp only [if_pos hlimit, run_seq, run_waitUntil]
      cases isBy cancel limit with
      | true => exact ⟨rfl, Attempt.of_error_eq_ok⟩
      | false => exact ⟨rfl, Attempt.of_error_eq_ok⟩
    · simp only [if_neg hlimit]
      exact huntil

theorem request_recorded (f : Fetcher ν) (cancel deadline : Option Nat) (url : String) (now : Nat)
    (s : Site (ν × List Request)) :
    let o := (f.recorded.request cancel deadline url : Job κ (Site (ν × List Request)) _).run now s
    s.HasAsked o.state ∧ ∀ answer, o.value = .ok answer →
      ∃ r ∈ o.state.record, r.url = url ∧ r.reply.answer = answer ∧ r.arrival = o.instant := by
  rw [request, run_seq, Job.run_instant]
  dsimp only
  by_cases hlate : isBy deadline now = true
  · rw [if_pos hlate]
    exact ⟨s.hasAsked_refl, fun _ => Attempt.of_error_eq_ok⟩
  · rw [if_neg hlate, run_seq, run_act, run_seq]
    dsimp only
    generalize hs' : ({ s with net := (f.recorded.transport.send url now s.net).2 } : Site (ν × List Request)) = s'
    generalize hreply : (f.recorded.transport.send url now s.net).1 = reply
    obtain ⟨hstate, hinstant⟩ := run_waitWithin (κ := κ) cancel deadline url (now + reply.wait) now s'
    have hrecord : s'.record = s.record ++ [⟨url, now, reply⟩] := by rw [← hs', ← hreply]; rfl
    have hasked : s.HasAsked s' := ⟨by rw [← hs'], hrecord ▸ List.prefix_append _ _⟩
    generalize (waitWithin cancel deadline url (now + reply.wait) : Job κ (Site (ν × List Request)) _).run now s' = w
      at hstate hinstant ⊢
    subst hstate
    cases hvalue : w.value with
    | error e => exact ⟨hasked, fun _ => Attempt.of_error_eq_ok⟩
    | ok _ =>
      refine ⟨hasked, fun answer hanswer => ⟨⟨url, now, reply⟩, ?_, rfl, Except.ok.inj hanswer, ?_⟩⟩
      · rw [Job.run_pure, hrecord]
        exact List.mem_append_right _ (List.mem_singleton.mpr rfl)
      · exact ((hinstant hvalue).trans (Nat.max_eq_right (Nat.le_add_right _ _))).symm

theorem attempt_recorded (f : Fetcher ν) (cancel deadline : Option Nat) (url : String) (now : Nat)
    (s : Site (ν × List Request)) :
    let o := (f.recorded.attempt cancel deadline url : Job κ (Site (ν × List Request)) _).run now s
    s.HasAsked o.state ∧ ∀ answer, o.value = .ok answer →
      ∃ r ∈ o.state.record, r.url = url ∧ r.reply.answer = answer ∧ r.arrival = o.instant := by
  rw [attempt, run_seq, run_view]
  dsimp only
  by_cases hlate : (deadline.any fun limit => decide (limit < now + s.delay)) = true
  · rw [if_pos hlate]
    exact ⟨s.hasAsked_refl, fun _ => Attempt.of_error_eq_ok⟩
  · rw [if_neg hlate, run_seq, run_waitUntil]
    by_cases hcancelled : isBy cancel (now + s.delay) = true
    · rw [if_pos hcancelled]
      exact ⟨s.hasAsked_refl, fun _ => Attempt.of_error_eq_ok⟩
    · rw [if_neg hcancelled]
      exact f.request_recorded cancel deadline url _ s

/-- A page that has been downloaded has just come with a reply in the record. -/
theorem downloadWith_recorded (f : Fetcher ν) (cancel deadline : Option Nat) (url : String) (more now : Nat)
    (s : Site (ν × List Request)) :
    let o := (f.recorded.downloadWith cancel deadline url more : Job κ (Site (ν × List Request)) _).run now s
    s.HasAsked o.state ∧ ∀ content, o.value = .ok content →
      ∃ r ∈ o.state.record, r.Brings url content ∧ r.arrival = o.instant := by
  induction more using Nat.strongRecOn generalizing now s with
  | ind more ih =>
    rw [downloadWith.eq_def]
    simp only [run_seq]
    obtain ⟨hasked, hfound⟩ := f.attempt_recorded (κ := κ) cancel deadline url now s
    generalize (f.recorded.attempt cancel deadline url : Job κ (Site (ν × List Request)) _).run now s = a
      at hasked hfound ⊢
    cases hvalue : a.value with
    | error e => exact ⟨hasked, fun _ => Attempt.of_error_eq_ok⟩
    | ok answer =>
      obtain ⟨r, hr, hurl, hanswer, harrival⟩ := hfound answer hvalue
      dsimp only
      cases hverdict : answer.verdict with
      | missing => exact ⟨hasked, fun _ => Attempt.of_error_eq_ok⟩
      | found body =>
        refine ⟨hasked, fun content hcontent => ⟨r, hr, ⟨hurl, ?_⟩, harrival⟩⟩
        rw [hanswer, hverdict, Except.ok.inj hcontent]
      | failed problem =>
        cases more with
        | zero => exact ⟨hasked, fun _ => Attempt.of_error_eq_ok⟩
        | succ more =>
          obtain ⟨hasked', hfound'⟩ := ih more (Nat.lt_succ_self more) a.instant (a.state.grow f.recorded.policy.step)
          exact ⟨hasked.trans hasked', hfound'⟩

theorem download_recorded (f : Fetcher ν) (cancel : Option Nat) (url : String) (now : Nat)
    (s : Site (ν × List Request)) :
    let o := (f.recorded.download cancel url : Job κ (Site (ν × List Request)) _).run now s
    s.HasAsked o.state ∧ ∀ content, o.value = .ok content →
      ∃ r ∈ o.state.record, r.Brings url content ∧ r.arrival = o.instant := by
  rw [download, run_seq, Job.run_instant]
  exact f.downloadWith_recorded cancel _ url _ now s

/-- How a visit of a page ends: the page was in the cache, or it could not be had, or it has just come. -/
inductive VisitEnds (f : Fetcher ν) (url : String) (now : Nat) (s : Site (ν × List Request)) :
    Job.Outcome (Site (ν × List Request)) (Attempt String) → Prop
  | kept {content : String} {s' : Site (ν × List Request)}
      (cached : (s.cache.get (f.clock now) url).1 = some content)
      (cache : s'.cache = (s.cache.get (f.clock now) url).2) (record : s'.record = s.record) :
      VisitEnds f url now s ⟨.ok content, now, s'⟩
  | failed {failure : Failure} {later : Nat} {s' : Site (ν × List Request)}
      (missed : (s.cache.get (f.clock now) url).1 = none)
      (cache : s'.cache = (s.cache.get (f.clock now) url).2) (record : s.record <+: s'.record) (le : now ≤ later) :
      VisitEnds f url now s ⟨.error failure, later, s'⟩
  | brought {content : String} {s' : Site (ν × List Request)} {r : Request}
      (missed : (s.cache.get (f.clock now) url).1 = none)
      (cache : s'.cache = (s.cache.get (f.clock now) url).2.put (f.clock r.arrival) url content)
      (record : s.record <+: s'.record) (mem : r ∈ s'.record) (brings : r.Brings url content) (le : now ≤ r.arrival) :
      VisitEnds f url now s ⟨.ok content, r.arrival, s'⟩

theorem get_ends (f : Fetcher ν) (cancel : Option Nat) (uri : Option String) (now : Nat)
    (s : Site (ν × List Request)) :
    f.VisitEnds (f.resolve uri) now s
      ((f.recorded.get cancel uri : Job κ (Site (ν × List Request)) _).run now s) := by
  cases hcached : (s.cache.get (f.clock now) (f.resolve uri)).1 with
  | some content =>
    rw [run_get_of_cached (f := f.recorded) hcached]
    exact .kept hcached rfl rfl
  | none =>
    cases hrefuses : s.refuses with
    | true =>
      rw [run_get_of_refused (f := f.recorded) hcached hrefuses]
      exact .failed hcached rfl (List.prefix_refl _) (Nat.le_refl _)
    | false =>
      have hle := Job.le_instant (f.recorded.download cancel (f.resolve uri) : Job κ (Site (ν × List Request)) _) now
        { s with cache := (s.cache.get (f.clock now) (f.resolve uri)).2 }
      obtain ⟨⟨hsame, hasked⟩, hbrought⟩ := f.download_recorded (κ := κ) cancel (f.resolve uri) now
        { s with cache := (s.cache.get (f.clock now) (f.resolve uri)).2 }
      generalize hd : (f.recorded.download cancel (f.resolve uri) : Job κ (Site (ν × List Request)) _).run now _ = d
        at hle hsame hasked hbrought
      rw [run_get_of_missed (f := f.recorded) hcached hrefuses hd]
      cases hvalue : d.value with
      | error e => exact .failed hcached hsame hasked hle
      | ok content =>
        obtain ⟨r, hr, hbrings, harrival⟩ := hbrought content hvalue
        rw [← harrival] at hle ⊢
        exact .brought hcached (congrArg (PageCache.put · (f.clock r.arrival) (f.resolve uri) content) hsame) hasked hr
          hbrings hle

end Fetcher
end Storefront
