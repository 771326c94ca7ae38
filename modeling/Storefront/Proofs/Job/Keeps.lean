import Mathlib.Logic.Relation
import Storefront.Job.Pool

/-! # Jobs that keep to a relation

What a job writes is judged from the instant and the state that it stands on, and while it waits time goes on
and the others may write what they like within the same bounds. Then so does every run of a pool of such jobs.
-/
namespace Storefront.Job
open Relation (ReflTransGen)
variable {κ σ τ α β : Type} {R : Nat × σ → Nat × σ → Prop} {Q : α → Nat × σ → Prop}

/-- From an instant and a state on, each write of the job goes along `R`, and what it comes to satisfies `Q`. To
give a lock back is no wait. -/
def Keeps (R : Nat × σ → Nat × σ → Prop) (Q : α → Nat × σ → Prop) : Job κ σ α → Nat × σ → Prop
  | done a, p => Q a p
  | read next, p => Keeps R Q (next p.1 p.2) p
  | write s next, p => R p (p.1, s) ∧ Keeps R Q next (p.1, s)
  | sleep _ next, p => ∀ q, ReflTransGen R p q → Keeps R Q next q
  | pause next, p => ∀ q, ReflTransGen R p q → Keeps R Q next q
  | lock _ next, p => ∀ q, ReflTransGen R p q → Keeps R Q next q
  | unlock _ next, p => Keeps R Q next p

theorem Keeps.mono {Q' : α → Nat × σ → Prop} (hQ : ∀ a p, Q a p → Q' a p) {job : Job κ σ α} {p : Nat × σ}
    (h : job.Keeps R Q p) : job.Keeps R Q' p := by
  induction job generalizing p with
  | done a => exact hQ a p h
  | read next ih => exact ih p.1 p.2 h
  | write s next ih => exact ⟨h.1, ih h.2⟩
  | sleep wake next ih => exact fun q hq => ih (h q hq)
  | pause next ih => exact fun q hq => ih (h q hq)
  | lock key next ih => exact fun q hq => ih (h q hq)
  | unlock key next ih => exact ih h

theorem Keeps.bind {Q : β → Nat × σ → Prop} {f : α → Job κ σ β} {job : Job κ σ α} {p : Nat × σ}
    (h : job.Keeps R (fun a q => (f a).Keeps R Q q) p) : (job >>= f).Keeps R Q p := by
  change (job.bind f).Keeps R Q p
  induction job generalizing p with
  | done a => exact h
  | read next ih => exact ih p.1 p.2 h
  | write s next ih => exact ⟨h.1, ih h.2⟩
  | sleep wake next ih => exact fun q hq => ih (h q hq)
  | pause next ih => exact fun q hq => ih (h q hq)
  | lock key next ih => exact fun q hq => ih (h q hq)
  | unlock key next ih => exact ih h

theorem Keeps.reaches {job : Job κ σ α} {p : Nat × σ} (h : job.Keeps R Q p) :
    job.Keeps R (fun a q => Q a q ∧ ReflTransGen R p q) p := by
  suffices hfrom : ∀ start, ReflTransGen R start p → job.Keeps R (fun a q => Q a q ∧ ReflTransGen R start q) p from
    hfrom p .refl
  intro start hstart
  induction job generalizing p with
  | done a => exact ⟨h, hstart⟩
  | read next ih => exact ih p.1 p.2 h hstart
  | write s next ih => exact ⟨h.1, ih h.2 (hstart.tail h.1)⟩
  | sleep wake next ih => exact fun q hq => ih (h q hq) (hstart.trans hq)
  | pause next ih => exact fun q hq => ih (h q hq) (hstart.trans hq)
  | lock key next ih => exact fun q hq => ih (h q hq) (hstart.trans hq)
  | unlock key next ih => exact ih h hstart

theorem keeps_of_forall (hR : ∀ p q, R p q) (hQ : ∀ a p, Q a p) (job : Job κ σ α) (p : Nat × σ) :
    job.Keeps R Q p := by
  induction job generalizing p with
  | done a => exact hQ a p
  | read next ih => exact ih p.1 p.2 p
  | write s next ih => exact ⟨hR p _, ih _⟩
  | sleep wake next ih => exact fun q _ => ih q
  | pause next ih => exact fun q _ => ih q
  | lock key next ih => exact fun q _ => ih q
  | unlock key next ih => exact ih p

theorem keeps_rest {Q : Unit → Nat × σ → Prop} {p : Nat × σ} (h : ∀ q, ReflTransGen R p q → Q () q) :
    (rest : Job κ σ Unit).Keeps R Q p := h

theorem keeps_sleepUntil {Q : Unit → Nat × σ → Prop} {wake : Nat} {p : Nat × σ} (h : ∀ q, ReflTransGen R p q → Q () q) :
    (sleepUntil wake : Job κ σ Unit).Keeps R Q p := h

theorem keeps_holding {key : κ} {job : Job κ σ α} {p : Nat × σ} (h : ∀ q, ReflTransGen R p q → job.Keeps R Q q) :
    (holding key job).Keeps R Q p :=
  fun q hq => Keeps.bind (h q hq)

theorem keeps_onFirst_act {R : Nat × σ × τ → Nat × σ × τ → Prop} {Q : α → Nat × σ × τ → Prop} {f : Nat → σ → α × σ}
    {p : Nat × σ × τ} (hR : R p (p.1, (f p.1 p.2.1).2, p.2.2)) (hQ : Q (f p.1 p.2.1).1 (p.1, (f p.1 p.2.1).2, p.2.2)) :
    ((act f).onFirst : Job κ (σ × τ) α).Keeps R Q p := ⟨hR, hQ⟩

/-- What a job may come to, whatever it reads. -/
def Yields (a : α) : Job κ σ α → Prop
  | done b => b = a
  | read next => ∃ now s, Yields a (next now s)
  | write _ next => Yields a next
  | sleep _ next => Yields a next
  | pause next => Yields a next
  | lock _ next => Yields a next
  | unlock _ next => Yields a next

/-- Whether a job keeps a condition on the state. -/
def Preserves (A : σ → Prop) (job : Job κ σ α) : Prop :=
  ∀ p, A p.2 → job.Keeps (fun p q => A p.2 → A q.2) (fun _ q => A q.2) p

theorem preserves_true (job : Job κ σ α) : job.Preserves fun _ => True :=
  fun p _ => keeps_of_forall (fun _ _ => id) (fun _ _ => trivial) job p

theorem holds_along {R : σ → σ → Prop} {I : σ → Prop} (hI : ∀ p q, R p q → I p → I q) {p q : σ}
    (h : ReflTransGen R p q) (hp : I p) : I q := by
  induction h with
  | refl => exact hp
  | tail _ hstep ih => exact hI _ _ hstep ih

theorem preserves_onFirst (job : Job κ σ α) (A : τ → Prop) :
    (job.onFirst : Job κ (σ × τ) α).Preserves fun s => A s.2 := by
  have hwait {p q : Nat × σ × τ}
      (h : ReflTransGen (fun p q : Nat × σ × τ => A p.2.2 → A q.2.2) p q) (hp : A p.2.2) : A q.2.2 :=
    holds_along (I := fun p : Nat × σ × τ => A p.2.2) (fun _ _ => id) h hp
  unfold onFirst
  intro p hp
  induction job generalizing p with
  | done a => exact hp
  | read next ih => exact ih p.1 p.2.1 p hp
  | write s next ih => exact ⟨id, ih (p.1, s, p.2.2) hp⟩
  | sleep wake next ih => exact fun q hq => ih q (hwait hq hp)
  | pause next ih => exact fun q hq => ih q (hwait hq hp)
  | lock key next ih => exact fun q hq => ih q (hwait hq hp)
  | unlock key next ih => exact ih p hp

/-- Work on the second part that keeps a condition stays within bounds that ask no more of it, and keeps what those
bounds keep. -/
theorem keeps_onSecond {R : Nat × σ × τ → Nat × σ × τ → Prop} {I : Nat × σ × τ → Prop} {A : τ → Prop}
    (hA : ∀ p, I p → A p.2.2) (hR : ∀ p t, I p → A t → R p (p.1, p.2.1, t)) (hI : ∀ p q, R p q → I p → I q)
    {job : Job κ τ α} (hjob : job.Preserves A) {p : Nat × σ × τ} (hp : I p) :
    job.onSecond.Keeps R (fun a q => job.Yields a ∧ I q) p := by
  have hwait {p q : Nat × σ × τ} (h : ReflTransGen R p q) (hp : I p) : I q := holds_along hI h hp
  have hkeeps := hjob (p.1, p.2.2) (hA p hp)
  clear hjob
  unfold onSecond
  induction job generalizing p with
  | done a => exact ⟨rfl, hp⟩
  | read next ih => exact (ih p.1 p.2.2 hp hkeeps).mono fun a q h => ⟨⟨p.1, p.2.2, h.1⟩, h.2⟩
  | write t next ih =>
    have hstep := hR p t hp (hkeeps.1 (hA p hp))
    exact ⟨hstep, ih (hI _ _ hstep hp) hkeeps.2⟩
  | sleep wake next ih =>
    exact fun q hq => ih (hwait hq hp) (hkeeps _ (.single fun _ => hA q (hwait hq hp)))
  | pause next ih =>
    exact fun q hq => ih (hwait hq hp) (hkeeps _ (.single fun _ => hA q (hwait hq hp)))
  | lock key next ih =>
    exact fun q hq => ih (hwait hq hp) (hkeeps _ (.single fun _ => hA q (hwait hq hp)))
  | unlock key next ih => exact ih hp hkeeps

def Stable (R : Nat × σ → Nat × σ → Prop) (Q : α → Nat × σ → Prop) (job : Job κ σ α) (p : Nat × σ) : Prop :=
  ∀ q, ReflTransGen R p q → job.Keeps R Q q

theorem Stable.keeps {job : Job κ σ α} {p : Nat × σ} (h : job.Stable R Q p) : job.Keeps R Q p := h p .refl

theorem Stable.trans {job : Job κ σ α} {p q : Nat × σ} (h : job.Stable R Q p) (hq : ReflTransGen R p q) :
    job.Stable R Q q :=
  fun q' hq' => h q' (hq.trans hq')

end Storefront.Job
