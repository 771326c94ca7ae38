import Storefront.Proofs.Job.Places

/-! # Work that comes to its end

Jobs that climb are all done in the end, however many may begin at once: the one that waits for the highest lock waits
for a job that does not wait.
-/
namespace Storefront.Pool
variable {κ σ α : Type} [DecidableEq κ] {rank : κ → Nat} {p q : Pool κ σ α} {i j : Nat} {job next : Job κ σ α} {key : κ}
  {holder : Nat} {queue others : List Nat}

theorem mem_owned_insert {owner : Nat} {k : κ} (hlocks : q.locks = p.locks.insert key (owner, queue)) :
    k ∈ q.owned j ↔ if k = key then owner = j else k ∈ p.owned j := by
  simp only [owned, Set.mem_ofPred_eq, hlocks, Table.get?_insert]
  split <;> simp

theorem mem_owned_erase {k : κ} (hlocks : q.locks = p.locks.erase key) :
    k ∈ q.owned j ↔ k ≠ key ∧ k ∈ p.owned j := by
  simp only [owned, Set.mem_ofPred_eq, hlocks, Table.get?_erase]
  split <;> simp [*]

/-- A lock has one owner. -/
theorem owned_unique (hi : key ∈ p.owned i) (hj : key ∈ p.owned j) : i = j := by
  obtain ⟨_, hi⟩ := hi
  obtain ⟨_, hj⟩ := hj
  rw [hi] at hj
  cases hj
  rfl

theorem Orderly.goOn (h : p.Orderly rank) (hi : p.lives i = true) (hfree : i ∉ p.locks.waiters)
    (hjobs : q.jobs = p.jobs.set i (some next)) (hlocks : q.locks = p.locks) (hwaiting : q.waiting = p.waiting)
    (hposts : ∀ j, q.posts.count j = p.posts.count j) (hasleep : ∀ s ∈ q.asleep, s ∈ p.asleep ∧ s.2 ≠ i)
    (hready : ∀ j ∈ p.ready, j ∈ q.ready) (hnext : next.Climbs rank ∅ (p.owned i)) : q.Orderly rank := by
  have howned : ∀ j, q.owned j = p.owned j := fun j => by simp only [owned, hlocks]
  refine h.replace hi hjobs hwaiting hposts hasleep (hlocks ▸ h.unique) (fun key holder queue hlock j hj => ?_)
    (fun j key hkey => h.begun j key (howned j ▸ hkey))
    (fun j job _ hjob => (h.stands j job hjob).mono (howned j) (hready j)) (howned i ▸ hnext)
  rw [hlocks] at hlock
  exact ⟨h.ne_of_queue hfree hlock hj, holder, queue, hlock, hj⟩

theorem Orderly.wait (h : p.Orderly rank) (hr : p.ready = i :: others) (hjobs : q.jobs = p.jobs)
    (hready : q.ready = others) (hwaiting : q.waiting = p.waiting) (hposts : ∀ j, q.posts.count j = p.posts.count j)
    (hsleeps : ∀ s ∈ q.asleep, ∃ wake next, p.jobs[s.2]? = some (some (.sleep wake next))) (hunique : q.locks.Unique)
    (hqueued : ∀ key holder queue, q.locks.get? key = some (holder, queue) →
      ∀ j ∈ queue, ∃ next, p.jobs[j]? = some (some (.lock key next)))
    (howned : ∀ j, q.owned j = p.owned j)
    (hclimbs : ∀ job, p.jobs[i]? = some (some job) → job.Climbs rank ∅ (p.owned i)) : q.Orderly rank := by
  have hlives : ∀ j, q.lives j = p.lives j := fun j => by rw [lives, lives, hjobs]
  refine ⟨fun j => ?_, fun s hs => ?_, hunique, fun key holder queue hlock j hj => ?_, fun j key hkey => ?_,
    fun j job hjob => ?_, fun hne => ?_⟩
  · rw [hposts, hlives]
    exact h.posted j
  · rw [hjobs]
    exact hsleeps s hs
  · rw [hjobs]
    exact hqueued key holder queue hlock j hj
  · rw [hlives, hwaiting]
    exact h.begun j key (howned j ▸ hkey)
  · rw [hjobs] at hjob
    by_cases hij : j = i
    · subst hij
      exact .holds ((howned j).symm ▸ hclimbs job hjob)
    · refine (h.stands j job hjob).mono (howned j) fun hj => ?_
      rw [hr] at hj
      rw [hready]
      exact (List.mem_cons.mp hj).resolve_left hij
  · rw [hwaiting] at hne ⊢
    simpa only [hlives] using h.admits hne

theorem Orderly.notMem_waiters (h : p.Orderly rank) (hi : i ∈ p.ready) : i ∉ p.locks.waiters := (h.of_ready hi).2.2.2.2

theorem Orderly.asleep_ne (h : p.Orderly rank) (hi : i ∈ p.ready) : ∀ s ∈ p.asleep, s ∈ p.asleep ∧ s.2 ≠ i :=
  fun _ hs => ⟨hs, fun heq => (h.of_ready hi).2.2.1 (heq ▸ List.mem_map_of_mem hs)⟩

theorem Orderly.acquire (h : p.Orderly rank) (hi : i ∈ p.ready) (hjob : p.jobs[i]? = some (some (.lock key next)))
    (hnone : p.locks.get? key = none) (hjobs : q.jobs = p.jobs.set i (some next)) (hready : q.ready = p.ready)
    (hasleep : q.asleep = p.asleep) (hwaiting : q.waiting = p.waiting)
    (hlocks : q.locks = p.locks.insert key (i, [])) : q.Orderly rank := by
  have hunowned : ∀ j, key ∉ p.owned j := by
    rintro j ⟨queue, hqueue⟩
    rw [hnone] at hqueue
    cases hqueue
  have howned : q.owned i = insert key (p.owned i) := by
    ext k
    rw [mem_owned_insert hlocks, Set.mem_insert_iff]
    split <;> simp [*]
  have hothers : ∀ j, i ≠ j → q.owned j = p.owned j := by
    intro j hij
    ext k
    rw [mem_owned_insert hlocks]
    split
    · rename_i hk
      exact iff_of_false hij (hk ▸ hunowned j)
    · rfl
  obtain ⟨-, hlives, -, hbegun, -⟩ := h.of_ready hi
  refine h.replace hlives hjobs hwaiting (fun j => ?_) (hasleep ▸ h.asleep_ne hi) (hlocks ▸ h.unique.insert key _)
    (fun k holder queue hlock j hj => ?_) (fun j k hk => ?_)
    (fun j job hij hj => (h.stands j job hj).mono (hothers j hij) (hready ▸ id)) ?_
  · have := Table.count_waiters_erase h.unique key j
    simp only [hnone, Option.elim_none, List.count_nil] at this
    simp only [count_posts, hready, hasleep, hwaiting, hlocks, Table.count_waiters_insert, List.count_nil]
    omega
  · rw [hlocks, Table.get?_insert] at hlock
    split at hlock
    · cases hlock
      cases hj
    · exact ⟨h.ne_of_queue (h.notMem_waiters hi) hlock hj, holder, queue, hlock, hj⟩
  · rw [mem_owned_insert hlocks] at hk
    split at hk
    · exact hk ▸ ⟨hlives, hbegun⟩
    · exact h.begun j k hk
  · rw [howned]
    cases h.stands i _ hjob with
    | holds hclimbs => exact hclimbs.2
    | inherits _ hkey => exact absurd hkey (hunowned i)

theorem Orderly.enqueue (h : p.Orderly rank) (hr : p.ready = i :: others)
    (hjob : p.jobs[i]? = some (some (.lock key next))) (hlock : p.locks.get? key = some (holder, queue))
    (hholder : holder ≠ i) (hjobs : q.jobs = p.jobs) (hready : q.ready = others) (hasleep : q.asleep = p.asleep)
    (hwaiting : q.waiting = p.waiting) (hlocks : q.locks = p.locks.insert key (holder, queue ++ [i])) :
    q.Orderly rank := by
  have howner : key ∈ p.owned holder := ⟨queue, hlock⟩
  refine h.wait hr hjobs hready hwaiting (fun j => ?_) (hasleep ▸ h.sleeps) (hlocks ▸ h.unique.insert key _)
    (fun k holder' queue' hlock' j hj => ?_) (fun j => ?_) (fun job hjob' => ?_)
  · have := Table.count_waiters_erase h.unique key j
    simp only [hlock, Option.elim_some] at this
    simp only [count_posts, hr, hready, hasleep, hwaiting, hlocks, Table.count_waiters_insert, List.count_append,
      List.count_cons, List.count_nil]
    omega
  · rw [hlocks, Table.get?_insert] at hlock'
    split at hlock'
    · rename_i hk
      cases hlock'
      rcases List.mem_append.mp hj with hj | hj
      · exact hk ▸ h.queued key holder queue hlock j hj
      · rw [List.mem_singleton.mp hj, hk]
        exact ⟨next, hjob⟩
    · exact h.queued k holder' queue' hlock' j hj
  · ext k
    rw [mem_owned_insert hlocks]
    split
    · rename_i hk
      exact ⟨fun hj => hk ▸ hj ▸ howner, fun hj => owned_unique howner (hk ▸ hj)⟩
    · rfl
  · rw [hjob] at hjob'
    cases hjob'
    cases h.stands i _ hjob with
    | holds hclimbs => exact hclimbs
    | inherits _ hkey => exact absurd (owned_unique howner hkey) hholder

theorem Orderly.takeLock (h : p.Orderly rank) (hr : p.ready = i :: others)
    (hjob : p.jobs[i]? = some (some (.lock key next))) : (p.takeLock i others key next).Orderly rank := by
  have hi : i ∈ p.ready := hr ▸ List.mem_cons_self
  unfold Pool.takeLock
  split
  · rename_i hnone
    exact h.acquire hi hjob hnone rfl rfl rfl rfl rfl
  · rename_i holder queue hlock
    split
    · rename_i hholder
      obtain ⟨-, hclimbs⟩ := (h.stands i _ hjob).climbs_of_owned ⟨queue, hholder ▸ hlock⟩
      exact h.goOn (lives_of_job hjob) (h.notMem_waiters hi) rfl rfl rfl (fun _ => rfl) (h.asleep_ne hi) (fun _ => id)
        hclimbs
    · rename_i hholder
      exact h.enqueue hr hjob hlock hholder rfl rfl rfl rfl rfl

theorem Orderly.bequeath {heir : Nat} (h : p.Orderly rank) (hi : i ∈ p.ready)
    (hjob : p.jobs[i]? = some (some (.unlock key next))) (hlock : p.locks.get? key = some (i, heir :: queue))
    (hjobs : q.jobs = p.jobs.set i (some next)) (hready : q.ready = p.ready ++ [heir]) (hasleep : q.asleep = p.asleep)
    (hwaiting : q.waiting = p.waiting) (hlocks : q.locks = p.locks.insert key (heir, queue)) : q.Orderly rank := by
  have howner : key ∈ p.owned i := ⟨heir :: queue, hlock⟩
  have hwaits : heir ∈ p.locks.waiters := mem_waiters h hlock List.mem_cons_self
  have hheir : i ≠ heir := by
    rintro rfl
    exact h.notMem_waiters hi hwaits
  obtain ⟨next', hjob'⟩ := h.queued key i _ hlock heir List.mem_cons_self
  have howned : q.owned i = p.owned i \ {key} := by
    ext k
    rw [mem_owned_insert hlocks, Set.mem_sdiff, Set.mem_singleton_iff]
    split <;> simp [*, hheir.symm]
  have hothers : ∀ j, i ≠ j → heir ≠ j → q.owned j = p.owned j := by
    intro j hij hne
    ext k
    rw [mem_owned_insert hlocks]
    split
    · rename_i hk
      exact iff_of_false hne fun hj => hij (owned_unique howner (hk ▸ hj))
    · rfl
  have hgiven : q.owned heir \ {key} = p.owned heir := by
    ext k
    rw [Set.mem_sdiff, Set.mem_singleton_iff, mem_owned_insert hlocks]
    split
    · rename_i hk
      exact iff_of_false (fun hj => hj.2 hk) fun hj => hheir (owned_unique howner (hk ▸ hj))
    · exact and_iff_left ‹_›
  refine h.replace (lives_of_job hjob) hjobs hwaiting (fun j => ?_) (hasleep ▸ h.asleep_ne hi)
    (hlocks ▸ h.unique.insert key _) (fun k holder' queue' hlock' j hj => ?_) (fun j k hk => ?_)
    (fun j job hij hj => ?_) ?_
  · have := Table.count_waiters_erase h.unique key j
    simp only [hlock, Option.elim_some, List.count_cons] at this
    simp only [count_posts, hready, hasleep, hwaiting, hlocks, Table.count_waiters_insert, List.count_append,
      List.count_cons, List.count_nil]
    omega
  · obtain ⟨holder₀, queue₀, hold, hmem⟩ : ∃ holder queue, p.locks.get? k = some (holder, queue) ∧ j ∈ queue := by
      rw [hlocks, Table.get?_insert] at hlock'
      split at hlock'
      · rename_i hk
        cases hlock'
        exact ⟨i, heir :: queue, hk ▸ hlock, List.mem_cons_of_mem heir hj⟩
      · exact ⟨holder', queue', hlock', hj⟩
    exact ⟨h.ne_of_queue (h.notMem_waiters hi) hold hmem, holder₀, queue₀, hold, hmem⟩
  · rw [mem_owned_insert hlocks] at hk
    split at hk
    · -- the heir is among the waiters, so it has begun
      have hposted := h.posted heir
      have : 0 < p.locks.waiters.count heir := List.count_pos_iff.mpr hwaits
      rw [count_posts, if_pos (lives_of_job hjob')] at hposted
      exact hk ▸ ⟨lives_of_job hjob', List.count_eq_zero.mp (by omega)⟩
    · exact h.begun j k hk
  · by_cases hne : heir = j
    · subst hne
      rw [hjob'] at hj
      cases hj
      have hclimbs : (Job.lock key next').Climbs rank ∅ (p.owned heir) := by
        cases h.stands heir _ hjob' with
        | holds hclimbs => exact hclimbs
        | inherits hready => exact absurd hwaits (h.notMem_waiters hready)
      refine .inherits ?_ ?_ (hgiven ▸ hclimbs)
      · rw [hready]
        exact List.mem_append_right _ (List.mem_singleton_self heir)
      · rw [mem_owned_insert hlocks, if_pos rfl]
    · refine (h.stands j job hj).mono (hothers j hij hne) fun hj => ?_
      rw [hready]
      exact List.mem_append_left _ hj
  · rw [howned]
    exact ((h.stands i _ hjob).climbs (by simp)).2

theorem Orderly.release (h : p.Orderly rank) (hi : i ∈ p.ready)
    (hjob : p.jobs[i]? = some (some (.unlock key next))) (hlock : p.locks.get? key = some (i, []))
    (hjobs : q.jobs = p.jobs.set i (some next)) (hready : q.ready = p.ready) (hasleep : q.asleep = p.asleep)
    (hwaiting : q.waiting = p.waiting) (hlocks : q.locks = p.locks.erase key) : q.Orderly rank := by
  have howned : q.owned i = p.owned i \ {key} := by
    ext k
    rw [mem_owned_erase hlocks, Set.mem_sdiff, Set.mem_singleton_iff, and_comm]
  have hothers : ∀ j, i ≠ j → q.owned j = p.owned j := by
    intro j hij
    ext k
    rw [mem_owned_erase hlocks, and_iff_right_iff_imp]
    rintro hj rfl
    exact hij (owned_unique ⟨[], hlock⟩ hj)
  refine h.replace (lives_of_job hjob) hjobs hwaiting (fun j => ?_) (hasleep ▸ h.asleep_ne hi)
    (hlocks ▸ h.unique.erase key) (fun k holder' queue' hlock' j hj => ?_) (fun j k hk => ?_)
    (fun j job hij hj => (h.stands j job hj).mono (hothers j hij) (hready ▸ id)) ?_
  · have := Table.count_waiters_erase h.unique key j
    simp only [hlock, Option.elim_some, List.count_nil] at this
    simp only [count_posts, hready, hasleep, hwaiting, hlocks]
    omega
  · rw [hlocks, Table.get?_erase] at hlock'
    split at hlock'
    · cases hlock'
    · exact ⟨h.ne_of_queue (h.notMem_waiters hi) hlock' hj, holder', queue', hlock', hj⟩
  · rw [mem_owned_erase hlocks] at hk
    exact h.begun j k hk.2
  · rw [howned]
    exact ((h.stands i _ hjob).climbs (by simp)).2

theorem Orderly.giveLock (h : p.Orderly rank) (hi : i ∈ p.ready)
    (hjob : p.jobs[i]? = some (some (.unlock key next))) : (p.giveLock i key next).Orderly rank := by
  obtain ⟨queue, hlock⟩ : key ∈ p.owned i := ((h.stands i _ hjob).climbs (by simp)).1
  unfold Pool.giveLock
  rw [hlock]
  cases queue with
  | nil => exact h.release hi hjob hlock rfl rfl rfl rfl rfl
  | cons heir queue => exact h.bequeath hi hjob hlock rfl rfl rfl rfl rfl

theorem Orderly.finish {a : α} (h : p.Orderly rank) (hr : p.ready = i :: others)
    (hjob : p.jobs[i]? = some (some (.done a))) (hjobs : q.jobs = p.jobs.set i none)
    (hready : q.ready = others ++ p.waiting.take 1) (hasleep : q.asleep = p.asleep)
    (hwaiting : q.waiting = p.waiting.drop 1) (hlocks : q.locks = p.locks) : q.Orderly rank := by
  have hi : i ∈ p.ready := hr ▸ List.mem_cons_self
  have hlives : ∀ j, q.lives j = (p.lives j && i != j) := fun j => lives_set_none (lives_of_job hjob) hjobs
  have hother : ∀ j, i ≠ j → q.jobs[j]? = p.jobs[j]? := by
    intro j hij
    rw [hjobs, getElem?_set_of_lives (lives_of_job hjob), if_neg hij]
  have howned : ∀ j, q.owned j = p.owned j := fun j => by simp only [owned, hlocks]
  have hnothing : p.owned i = ∅ := (h.stands i _ hjob).climbs (by simp)
  refine ⟨fun j => ?_, fun s hs => ?_, hlocks ▸ h.unique, fun key holder queue hlock j hj => ?_, fun j key hkey => ?_,
    fun j job hj => ?_, fun hne => ?_⟩
  · have hposted := h.posted j
    have hsplit := congrArg (List.count j) (List.take_append_drop 1 p.waiting)
    rw [List.count_append] at hsplit
    simp only [count_posts, hr, hready, hasleep, hwaiting, hlocks, List.count_append, List.count_cons] at hposted ⊢
    rw [hlives]
    by_cases hij : i = j
    · subst hij
      rw [lives_of_job hjob] at hposted ⊢
      simp only [beq_self_eq_true, bne_self_eq_false, Bool.and_false, Bool.false_eq_true, if_true, if_false]
        at hposted ⊢
      omega
    · rw [beq_eq_false_iff_ne.mpr hij] at hposted
      rw [bne_iff_ne.mpr hij, Bool.and_true]
      simp only [Bool.false_eq_true, if_false] at hposted
      omega
  · rw [hasleep] at hs
    rw [hother _ (h.asleep_ne hi s hs).2.symm]
    exact h.sleeps s hs
  · rw [hlocks] at hlock
    rw [hother j (h.ne_of_queue (h.notMem_waiters hi) hlock hj).symm]
    exact h.queued key holder queue hlock j hj
  · rw [howned] at hkey
    obtain ⟨hj, hbegun⟩ := h.begun j key hkey
    have hij : i ≠ j := by
      rintro rfl
      rw [hnothing] at hkey
      exact hkey
    rw [hlives, hj, bne_iff_ne.mpr hij, hwaiting]
    exact ⟨rfl, fun hmem => hbegun (List.mem_of_mem_drop hmem)⟩
  · have hij : i ≠ j := by
      rintro rfl
      rw [hjobs, getElem?_set_of_lives (lives_of_job hjob), if_pos rfl] at hj
      cases hj
    refine (h.stands j job (hother j hij ▸ hj)).mono (howned j) fun hmem => ?_
    rw [hr] at hmem
    rw [hready]
    exact List.mem_append_left _ ((List.mem_cons.mp hmem).resolve_left hij.symm)
  · -- the next one has begun now
    obtain ⟨w, rest, hw⟩ : ∃ w rest, p.waiting = w :: rest := by
      cases hp : p.waiting with
      | nil => simp [hwaiting, hp] at hne
      | cons w rest => exact ⟨w, rest, rfl⟩
    have hcount : p.posts.count w = p.ready.count w + ((p.asleep.map Prod.snd).count w +
        (rest.count w + 1 + p.locks.waiters.count w)) := by
      rw [count_posts, hw, List.count_cons_self]
    have hiw : i ≠ w := by
      rintro rfl
      exact (h.of_ready hi).2.2.2.1 (hw ▸ List.mem_cons_self)
    obtain ⟨hl, hposted⟩ := h.of_posted (i := w) (by omega)
    refine ⟨w, by rw [hlives, hl, bne_iff_ne.mpr hiw]; rfl, ?_⟩
    rw [hwaiting, hw]
    exact List.count_eq_zero.mp (show rest.count w = 0 by omega)

theorem Orderly.turn (h : p.Orderly rank) (hr : p.ready = i :: others) : (p.turn i others).Orderly rank := by
  have hi : i ∈ p.ready := hr ▸ List.mem_cons_self
  obtain ⟨-, hlives, -, -, hfree⟩ := h.of_ready hi
  obtain ⟨job, hjob⟩ := lives_iff.mp hlives
  have hstands := h.stands i job hjob
  unfold Pool.turn
  rw [hjob]
  cases job with
  | done a => exact h.finish hr hjob rfl rfl rfl rfl rfl
  | read next =>
    exact h.goOn hlives hfree rfl rfl rfl (fun _ => rfl) (h.asleep_ne hi) (fun _ => id)
      (hstands.climbs (by simp) p.now p.state)
  | write s next =>
    have hnext : next.Climbs rank ∅ (p.owned i) := hstands.climbs (by simp)
    exact h.goOn hlives hfree rfl rfl rfl (fun _ => rfl) (h.asleep_ne hi) (fun _ => id) hnext
  | sleep wake next =>
    have hnext : next.Climbs rank ∅ (p.owned i) := hstands.climbs (by simp)
    dsimp only
    split
    · exact h.goOn hlives hfree rfl rfl rfl (fun _ => rfl) (h.asleep_ne hi) (fun _ => id) hnext
    · refine h.wait hr rfl rfl rfl (fun j => ?_) (fun s hs => ?_) h.unique h.queued (fun _ => rfl) (fun job hjob' => ?_)
      · simp only [count_posts, hr, List.map_append, List.count_append, List.map_cons, List.map_nil, List.count_cons,
          List.count_nil]
        omega
      · rcases List.mem_append.mp hs with hs | hs
        · exact h.sleeps s hs
        · rw [List.mem_singleton.mp hs]
          exact ⟨wake, next, hjob⟩
      · rw [hjob] at hjob'
        cases hjob'
        exact hnext
  | pause next =>
    have hnext : next.Climbs rank ∅ (p.owned i) := hstands.climbs (by simp)
    refine h.goOn hlives hfree rfl rfl rfl (fun j => ?_) (h.asleep_ne hi) (fun j hj => ?_) hnext
    · simp only [count_posts, putJob, hr, List.count_append, List.count_cons, List.count_nil]
      omega
    · rw [hr] at hj
      simpa [or_comm] using hj
  | lock key next => exact h.takeLock hr hjob
  | unlock key next => exact h.giveLock hi hjob

theorem Orderly.wake {sleeper : Nat × Nat} (h : p.Orderly rank) (hs : sleeper ∈ p.asleep) :
    (p.wake sleeper).Orderly rank := by
  obtain ⟨wake, next, hjob⟩ := h.sleeps sleeper hs
  have hposted := h.posted sleeper.2
  have hperm (j : Nat) :
      (p.asleep.map Prod.snd).count j = (sleeper.2 :: (p.asleep.erase sleeper).map Prod.snd).count j :=
    ((List.perm_cons_erase hs).map Prod.snd).count_eq j
  rw [count_posts, lives_of_job hjob, if_pos rfl, hperm, List.count_cons_self] at hposted
  unfold Pool.wake
  rw [hjob]
  dsimp only
  refine h.goOn (lives_of_job hjob) (List.count_eq_zero.mp (by omega)) rfl rfl rfl (fun j => ?_) (fun s hs' => ?_)
    (fun j => List.mem_append_left _) ((h.stands _ _ hjob).climbs (by simp))
  · simp only [count_posts, putJob, hperm, List.count_append, List.count_cons, List.count_nil]
    omega
  · have hleft : s ∈ p.asleep.erase sleeper := hs'
    refine ⟨List.mem_of_mem_erase hleft, fun heq => ?_⟩
    have : 0 < ((p.asleep.erase sleeper).map Prod.snd).count sleeper.2 :=
      List.count_pos_iff.mpr (heq ▸ List.mem_map_of_mem hleft)
    omega

theorem Orderly.step (h : p.Orderly rank) (hstep : p.step = some q) : q.Orderly rank := by
  unfold Pool.step at hstep
  split at hstep
  · cases hstep
  · cases hstep
    exact h.turn ‹_›
  · rename_i sleeper hs _
    cases hstep
    exact h.wake (firstSleeper_mem hs)
  · rename_i sleeper i others hs hr
    split at hstep
    · cases hstep
      exact h.wake (firstSleeper_mem hs)
    · cases hstep
      exact h.turn hr

theorem Orderly.steps (h : p.Orderly rank) (n : Nat) : (p.steps n).Orderly rank := by
  induction n generalizing p with
  | zero => exact h
  | succ n ih =>
    unfold Pool.steps
    cases hstep : p.step with
    | none => exact h
    | some q => exact ih (h.step hstep)

theorem orderly_start {jobs : List (Job κ σ α)} (h : ∀ job ∈ jobs, job.Climbs rank ∅ ∅) {limit : Nat}
    (hlimit : limit ≠ 0) (now : Nat) (state : σ) : (start limit jobs now state).Orderly rank := by
  have hget : ∀ i : Nat, (start limit jobs now state).jobs[i]? = jobs[i]?.map some := fun i => List.getElem?_map
  have hlives : ∀ i, (start limit jobs now state).lives i = decide (i < jobs.length) := by
    intro i
    rw [lives, hget]
    by_cases hi : i < jobs.length <;> simp [hi]
  have howned : ∀ i, (start limit jobs now state).owned i = ∅ := by
    intro i
    ext k
    simp [owned, start, Table.get?]
  have hposted : ∀ i, (start limit jobs now state).posts.count i =
      if (start limit jobs now state).lives i then 1 else 0 := by
    intro i
    have hposts : (start limit jobs now state).posts = List.range jobs.length := by
      simp only [posts, start, Table.waiters, List.map_nil, List.flatMap_nil, List.nil_append, List.append_nil,
        List.take_append_drop]
    rw [hposts, hlives, List.count_range]
    simp
  refine ⟨hposted, by simp [start], by simp [start, Table.Unique], by simp [start, Table.get?], ?_, ?_, ?_⟩
  · intro i key hkey
    rw [howned] at hkey
    cases hkey
  · intro i job hjob
    rw [hget, Option.map_eq_some_iff] at hjob
    obtain ⟨job', hjob', heq⟩ := hjob
    cases heq
    exact .holds (howned i ▸ h job (List.mem_of_getElem? hjob'))
  · intro hne
    have hlength : jobs.length ≠ 0 := by
      intro hzero
      simp [start, hzero] at hne
    refine ⟨0, by rw [hlives, decide_eq_true_iff]; omega, fun hmem => ?_⟩
    obtain ⟨j, hj, hzero⟩ := List.mem_drop_iff_getElem.mp hmem
    rw [List.getElem_range] at hzero
    omega

theorem eq_nil_of_firstSleeper {list : List (Nat × Nat)} (h : firstSleeper list = none) : list = [] := by
  cases list with
  | nil => rfl
  | cons a rest =>
    simp only [firstSleeper] at h
    split at h <;> cases h

/-- Where no job can go on and none sleeps, none waits for a lock either: its owner would wait for a higher one. -/
theorem Orderly.queue_eq_nil (h : p.Orderly rank) (hready : p.ready = []) (hasleep : p.asleep = []) {bound : Nat}
    (hbound : ∀ key, rank key ≤ bound) (hlock : p.locks.get? key = some (holder, queue)) : queue = [] := by
  -- induction on how far the lock is below the bound
  obtain ⟨gap, hgap⟩ := Nat.exists_eq_add_of_le (hbound key)
  induction gap using Nat.strong_induction_on generalizing key holder queue with
  | _ gap ih =>
    have howner : key ∈ p.owned holder := ⟨queue, hlock⟩
    obtain ⟨hlives, hbegun⟩ := h.begun holder key howner
    have hposted := h.posted holder
    rw [count_posts, hready, hasleep, List.count_eq_zero.mpr hbegun, hlives, if_pos rfl, List.map_nil, List.count_nil,
      Nat.zero_add, Nat.zero_add, Nat.zero_add] at hposted
    have hwaits : holder ∈ p.locks.waiters := List.count_pos_iff.mp (by omega)
    obtain ⟨higher, holder', queue', hlock', hmem⟩ := exists_queue h hwaits
    obtain ⟨next, hjob⟩ := h.queued higher holder' queue' hlock' holder hmem
    cases h.stands holder _ hjob with
    | holds hclimbs =>
      have hrank := hclimbs.1 key howner
      obtain ⟨gap', hgap'⟩ := Nat.exists_eq_add_of_le (hbound higher)
      rw [ih gap' (by omega) hlock' hgap'] at hmem
      cases hmem
    | inherits hi =>
      rw [hready] at hi
      cases hi

theorem Orderly.lives_of_step_eq_none (h : p.Orderly rank) {bound : Nat} (hbound : ∀ key, rank key ≤ bound)
    (hstep : p.step = none) (i : Nat) : p.lives i = false := by
  obtain ⟨hasleep, hready⟩ : p.asleep = [] ∧ p.ready = [] := by
    unfold Pool.step at hstep
    split at hstep
    · exact ⟨eq_nil_of_firstSleeper ‹_›, ‹_›⟩
    · cases hstep
    · cases hstep
    · split at hstep <;> cases hstep
  have hnobody : ∀ j, j ∉ p.locks.waiters := by
    intro j hj
    obtain ⟨key, holder, queue, hlock, hmem⟩ := exists_queue h hj
    rw [h.queue_eq_nil hready hasleep hbound hlock] at hmem
    cases hmem
  -- who is not done has not begun
  have hwaits : ∀ j, p.lives j = true → j ∈ p.waiting := by
    intro j hj
    have hposted := h.posted j
    rw [count_posts, hready, hasleep, List.count_eq_zero.mpr (hnobody j), hj, if_pos rfl] at hposted
    exact List.count_pos_iff.mp (by simpa using hposted.ge)
  by_contra hi
  obtain ⟨j, hj, hbegun⟩ := h.admits (List.ne_nil_of_mem (hwaits i (by simpa using hi)))
  exact hbegun (hwaits j hj)

theorem step_run (p : Pool κ σ α) : p.run.step = none := by
  induction p using run.induct with
  | case1 p hstep =>
    rw [run_of_step_eq_none hstep]
    exact hstep
  | case2 p q hstep _ ih =>
    rw [run_of_step_eq_some hstep]
    exact ih

/-- Jobs that climb are all done in the end. -/
theorem lives_run {jobs : List (Job κ σ α)} (h : ∀ job ∈ jobs, job.Climbs rank ∅ ∅) {bound : Nat}
    (hbound : ∀ key, rank key ≤ bound) {limit : Nat} (hlimit : limit ≠ 0) (now : Nat) (state : σ) (i : Nat) :
    (start limit jobs now state).run.lives i = false := by
  obtain ⟨n, hn⟩ := exists_run_eq_steps (start limit jobs now state)
  have horderly := (orderly_start h hlimit now state).steps n
  rw [← hn] at horderly
  exact horderly.lives_of_step_eq_none hbound (step_run _) i

end Storefront.Pool
