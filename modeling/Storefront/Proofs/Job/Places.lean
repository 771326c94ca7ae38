import Storefront.Proofs.Job.Climbs
import Storefront.Proofs.Job.Pool

/-! # Where the jobs of a pool are

Every job that is not done is at one place: it can go on, it sleeps, it has not begun, or it waits for a lock. Who
waits for a lock is about to take it, and who has been given one can go on.
-/
namespace Storefront

namespace Table
variable {κ α : Type} [DecidableEq κ] {t : Table κ α} {key : κ} {value : α}

def Unique (t : Table κ α) : Prop := (t.entries.map Prod.fst).Nodup

theorem Unique.erase (h : t.Unique) (key : κ) : (t.erase key).Unique := h.sublist (List.filter_sublist.map _)

theorem Unique.insert (h : t.Unique) (key : κ) (value : α) : (t.insert key value).Unique := by
  unfold Unique Table.insert
  rw [List.map_append, List.nodup_append]
  exact ⟨h.erase key, by simp, by simp [Table.erase]⟩

theorem Unique.get?_of_mem (h : t.Unique) (hmem : (key, value) ∈ t.entries) : t.get? key = some value := by
  obtain ⟨entries⟩ := t
  simp only [Unique, get?] at h hmem ⊢
  induction entries with
  | nil => cases hmem
  | cons e rest ih =>
    obtain ⟨k, v⟩ := e
    rw [List.map_cons, List.nodup_cons] at h
    rcases List.mem_cons.mp hmem with heq | hrest
    · cases heq
      simp
    · have hne : key ≠ k := by
        rintro rfl
        have hkey := List.mem_map_of_mem (f := Prod.fst) hrest
        exact h.1 hkey
      rw [List.lookup_cons, beq_eq_false_iff_ne.mpr hne]
      exact ih h.2 hrest

def waiters (t : Table κ (Nat × List Nat)) : List Nat := t.entries.flatMap fun e => e.2.2

theorem count_waiters_erase {t : Table κ (Nat × List Nat)} (h : t.Unique) (key : κ) (i : Nat) :
    (t.erase key).waiters.count i + ((t.get? key).elim [] Prod.snd).count i = t.waiters.count i := by
  obtain ⟨entries⟩ := t
  simp only [Unique, get?, waiters, erase] at h ⊢
  induction entries with
  | nil => rfl
  | cons e rest ih =>
    obtain ⟨k, v⟩ := e
    rw [List.map_cons, List.nodup_cons] at h
    by_cases hk : key = k
    · subst hk
      have hrest : rest.filter (fun e => e.1 != key) = rest := by
        refine List.filter_eq_self.mpr fun e he => bne_iff_ne.mpr ?_
        rintro rfl
        have hkey := List.mem_map_of_mem (f := Prod.fst) he
        exact h.1 hkey
      simp [hrest, Nat.add_comm]
    · have hne : k ≠ key := fun heq => hk heq.symm
      have := ih h.2
      simp only [List.filter_cons, bne_iff_ne.mpr hne, if_true, List.flatMap_cons, List.count_append,
        List.lookup_cons, beq_eq_false_iff_ne.mpr hk]
      omega

theorem count_waiters_insert (t : Table κ (Nat × List Nat)) (key : κ) (holder : Nat) (queue : List Nat) (i : Nat) :
    (t.insert key (holder, queue)).waiters.count i = (t.erase key).waiters.count i + queue.count i := by
  simp [waiters, insert]

end Table

namespace Pool
variable {κ σ α : Type}

def lives (p : Pool κ σ α) (i : Nat) : Bool := p.jobs[i]?.join.isSome

def posts (p : Pool κ σ α) : List Nat := p.ready ++ (p.asleep.map Prod.snd ++ (p.waiting ++ p.locks.waiters))

section
variable {p q : Pool κ σ α} {i j : Nat} {job next : Job κ σ α}

theorem lives_iff : p.lives i = true ↔ ∃ job, p.jobs[i]? = some (some job) := by
  unfold lives
  cases h : p.jobs[i]? with
  | none => simp
  | some place => cases place <;> simp

theorem lives_of_job (h : p.jobs[i]? = some (some job)) : p.lives i = true := lives_iff.mpr ⟨job, h⟩

theorem getElem?_set_of_lives (h : p.lives i = true) (place : Option (Job κ σ α)) :
    (p.jobs.set i place)[j]? = if i = j then some place else p.jobs[j]? := by
  obtain ⟨job, hjob⟩ := lives_iff.mp h
  obtain ⟨hlt, -⟩ := List.getElem?_eq_some_iff.mp hjob
  rw [List.getElem?_set, if_pos hlt]

theorem lives_set (h : p.lives i = true) (hjobs : q.jobs = p.jobs.set i (some next)) : q.lives j = p.lives j := by
  rw [lives, hjobs, getElem?_set_of_lives h]
  split
  · rename_i hij
    rw [← hij, h]
    rfl
  · rfl

theorem lives_set_none (h : p.lives i = true) (hjobs : q.jobs = p.jobs.set i none) :
    q.lives j = (p.lives j && i != j) := by
  rw [lives, hjobs, getElem?_set_of_lives h]
  split
  · simp [*]
  · rename_i hij
    rw [bne_iff_ne.mpr hij, Bool.and_true]
    rfl

theorem count_posts : p.posts.count i =
    p.ready.count i + ((p.asleep.map Prod.snd).count i + (p.waiting.count i + p.locks.waiters.count i)) := by
  simp only [posts, List.count_append]

end

variable [DecidableEq κ]

/-- The locks that have been given to a job. -/
def owned (p : Pool κ σ α) (i : Nat) : Set κ := {key | ∃ queue, p.locks.get? key = some (i, queue)}

/-- A job climbs from the locks that it owns, or it is about to go on with one that it has just been given. -/
inductive Stands (rank : κ → Nat) (p : Pool κ σ α) (i : Nat) : Job κ σ α → Prop
  | holds {job : Job κ σ α} (h : job.Climbs rank ∅ (p.owned i)) : Stands rank p i job
  | inherits {key : κ} {next : Job κ σ α} (hready : i ∈ p.ready) (hkey : key ∈ p.owned i)
      (h : (Job.lock key next).Climbs rank ∅ (p.owned i \ {key})) : Stands rank p i (.lock key next)

/-- Every job that is not done is at one place, and none takes its locks out of order. -/
structure Orderly (rank : κ → Nat) (p : Pool κ σ α) : Prop where
  posted : ∀ i, p.posts.count i = if p.lives i then 1 else 0
  sleeps : ∀ s ∈ p.asleep, ∃ wake next, p.jobs[s.2]? = some (some (.sleep wake next))
  unique : p.locks.Unique
  queued : ∀ key holder queue, p.locks.get? key = some (holder, queue) →
    ∀ i ∈ queue, ∃ next, p.jobs[i]? = some (some (.lock key next))
  begun : ∀ i key, key ∈ p.owned i → p.lives i = true ∧ i ∉ p.waiting
  stands : ∀ i job, p.jobs[i]? = some (some job) → p.Stands rank i job
  admits : p.waiting ≠ [] → ∃ i, p.lives i = true ∧ i ∉ p.waiting

section
variable {rank : κ → Nat} {p q : Pool κ σ α} {i j : Nat} {job next : Job κ σ α} {key : κ} {holder : Nat}
  {queue others : List Nat}

theorem Stands.mono (h : p.Stands rank i job) (howned : q.owned i = p.owned i) (hready : i ∈ p.ready → i ∈ q.ready) :
    q.Stands rank i job := by
  cases h with
  | holds h => exact .holds (howned ▸ h)
  | inherits hi hkey h => exact .inherits (hready hi) (howned ▸ hkey) (howned ▸ h)

theorem Stands.climbs (h : p.Stands rank i job) (hjob : ∀ key next, job ≠ .lock key next) :
    job.Climbs rank ∅ (p.owned i) := by
  cases h with
  | holds h => exact h
  | inherits => exact absurd rfl (hjob _ _)

/-- A job that takes a lock owns it already only if it has been given it. -/
theorem Stands.climbs_of_owned (h : p.Stands rank i (.lock key next)) (hkey : key ∈ p.owned i) :
    i ∈ p.ready ∧ next.Climbs rank ∅ (p.owned i) := by
  cases h with
  | holds h => exact absurd (h.1 key hkey) (Nat.lt_irrefl _)
  | inherits hi _ h =>
    rw [Job.Climbs, Set.insert_sdiff_self_of_mem hkey] at h
    exact ⟨hi, h.2⟩

theorem Orderly.of_posted (h : p.Orderly rank) (hi : 0 < p.posts.count i) :
    p.lives i = true ∧ p.posts.count i = 1 := by
  have hposted := h.posted i
  split at hposted
  · exact ⟨‹_›, hposted⟩
  · omega

theorem mem_waiters (h : p.Orderly rank) (hlock : p.locks.get? key = some (holder, queue)) (hi : i ∈ queue) :
    i ∈ p.locks.waiters := by
  have hcount := Table.count_waiters_erase h.unique key i
  rw [hlock] at hcount
  have : 0 < queue.count i := List.count_pos_iff.mpr hi
  refine List.count_pos_iff.mp ?_
  simp only [Option.elim_some] at hcount
  omega

theorem Orderly.ne_of_queue (h : p.Orderly rank) (hfree : i ∉ p.locks.waiters)
    (hlock : p.locks.get? key = some (holder, queue)) (hj : j ∈ queue) : j ≠ i := by
  rintro rfl
  exact hfree (mem_waiters h hlock hj)

theorem exists_queue (h : p.Orderly rank) (hi : i ∈ p.locks.waiters) :
    ∃ key holder queue, p.locks.get? key = some (holder, queue) ∧ i ∈ queue := by
  obtain ⟨⟨key, holder, queue⟩, hmem, hi⟩ := List.mem_flatMap.mp hi
  exact ⟨key, holder, queue, h.unique.get?_of_mem hmem, hi⟩

theorem Orderly.of_ready (h : p.Orderly rank) (hi : i ∈ p.ready) :
    p.ready.count i = 1 ∧ p.lives i = true ∧ i ∉ p.asleep.map Prod.snd ∧ i ∉ p.waiting ∧ i ∉ p.locks.waiters := by
  have : 0 < p.ready.count i := List.count_pos_iff.mpr hi
  obtain ⟨hlives, hposted⟩ := h.of_posted (i := i) (by rw [count_posts]; omega)
  rw [count_posts] at hposted
  simp only [← List.count_eq_zero]
  exact ⟨by omega, hlives, by omega, by omega, by omega⟩

/-- A job at its turn, or one that has been woken, goes on. -/
theorem Orderly.replace (h : p.Orderly rank) (hi : p.lives i = true) (hjobs : q.jobs = p.jobs.set i (some next))
    (hwaiting : q.waiting = p.waiting) (hposts : ∀ j, q.posts.count j = p.posts.count j)
    (hasleep : ∀ s ∈ q.asleep, s ∈ p.asleep ∧ s.2 ≠ i) (hunique : q.locks.Unique)
    (hqueued : ∀ key holder queue, q.locks.get? key = some (holder, queue) → ∀ j ∈ queue, j ≠ i ∧
      ∃ holder' queue', p.locks.get? key = some (holder', queue') ∧ j ∈ queue')
    (hbegun : ∀ j key, key ∈ q.owned j → p.lives j = true ∧ j ∉ p.waiting)
    (hstands : ∀ j job, i ≠ j → p.jobs[j]? = some (some job) → q.Stands rank j job)
    (hnext : next.Climbs rank ∅ (q.owned i)) : q.Orderly rank := by
  have hlives : ∀ j, q.lives j = p.lives j := fun j => lives_set hi hjobs
  have hother : ∀ j, i ≠ j → q.jobs[j]? = p.jobs[j]? := by
    intro j hij
    rw [hjobs, getElem?_set_of_lives hi, if_neg hij]
  refine ⟨fun j => ?_, fun s hs => ?_, hunique, fun key holder queue hlock j hj => ?_, fun j key hkey => ?_,
    fun j job hjob => ?_, fun hne => ?_⟩
  · rw [hposts, hlives]
    exact h.posted j
  · obtain ⟨hs, hne⟩ := hasleep s hs
    rw [hother _ hne.symm]
    exact h.sleeps s hs
  · obtain ⟨hne, holder', queue', hlock', hj'⟩ := hqueued key holder queue hlock j hj
    rw [hother _ hne.symm]
    exact h.queued key holder' queue' hlock' j hj'
  · rw [hlives, hwaiting]
    exact hbegun j key hkey
  · by_cases hij : i = j
    · rw [hjobs, getElem?_set_of_lives hi, if_pos hij] at hjob
      cases hjob
      exact hij ▸ .holds hnext
    · exact hstands j job hij (hother j hij ▸ hjob)
  · rw [hwaiting] at hne ⊢
    simpa only [hlives] using h.admits hne

end
end Pool
end Storefront
