import DEFw.Peers.Presence

namespace DEFw.Peers

variable {τ : Type}

/-- A READY, a LOST or a REMOVED. -/
def Sighting.isLifecycle (sighting : Sighting τ) : Prop :=
  sighting.type = .ready ∨ sighting.type = .lost ∨ sighting.type = .removed

variable [LinearOrder τ]

/-- Some READY is newer than every REMOVED. -/
def Present (sightings : List (Sighting τ)) : Prop :=
  ∃ ready ∈ sightings, ready.type = .ready ∧
    ∀ removed ∈ sightings, removed.type = .removed → removed.time < ready.time

/-- The newest sighting of all is a READY. -/
def Callable (sightings : List (Sighting τ)) : Prop :=
  ∃ ready ∈ sightings, ready.type = .ready ∧ ∀ other ∈ sightings, other.time ≤ ready.time

/-- No REMOVED applied after the READY undoes it: each is older than the READY
or than something applied between the two. -/
def Outlives (ready : Sighting τ) (later : List (Sighting τ)) : Prop :=
  ∀ between removed rest, later = between ++ removed :: rest → removed.type = .removed →
    ∃ newer ∈ ready :: between, removed.time < newer.time

/-- Some READY outlives everything applied after it. -/
def Kept (sightings : List (Sighting τ)) : Prop :=
  ∃ before ready later, sightings = before ++ ready :: later ∧ ready.type = .ready ∧ Outlives ready later

/-- The orders of application the table copes with: a peer whose last word is
a removal is not kept, and a peer that is present but lost hears of a loss newer
than every READY at a time when it is kept. -/
def Tolerated (sightings : List (Sighting τ)) : Prop :=
  (¬Present sightings → ¬Kept sightings) ∧
    (Present sightings → ¬Callable sightings →
      ∃ before lost later, sightings = before ++ lost :: later ∧ lost.type = .lost ∧ Kept before ∧
        ∀ ready ∈ sightings, ready.type = .ready → ready.time < lost.time)

theorem Outlives.of_append {ready : Sighting τ} {later rest : List (Sighting τ)}
    (outlives : Outlives ready (later ++ rest)) : Outlives ready later := by
  rintro between removed after rfl
  exact outlives between removed (after ++ rest) (by simp)

theorem outlives_concat {ready last : Sighting τ} {later : List (Sighting τ)} :
    Outlives ready (later ++ [last]) ↔
      Outlives ready later ∧ (last.type = .removed → ∃ newer ∈ ready :: later, last.time < newer.time) := by
  constructor
  · intro outlives
    exact ⟨outlives.of_append, outlives later last [] rfl⟩
  · rintro ⟨earlier, overtaken⟩ between removed rest split isRemoved
    rcases List.eq_nil_or_concat rest with rfl | ⟨front, final, rfl⟩
    · obtain ⟨rfl, same⟩ := List.append_inj' split rfl
      cases same
      exact overtaken isRemoved
    · rw [List.concat_eq_append, ← List.cons_append, ← List.append_assoc] at split
      obtain ⟨same, _⟩ := List.append_inj' split rfl
      exact earlier between removed front same isRemoved

theorem Outlives.extend {ready : Sighting τ} {later rest : List (Sighting τ)} (outlives : Outlives ready later)
    (overtaken : ∀ removed ∈ rest, removed.type = .removed → ∃ newer ∈ ready :: later, removed.time < newer.time) :
    Outlives ready (later ++ rest) := by
  induction rest using List.reverseRecOn with
  | nil => simpa using outlives
  | append_singleton rest last ih =>
    rw [← List.append_assoc]
    refine outlives_concat.mpr ⟨ih (fun removed member => overtaken removed (List.mem_append_left _ member)), ?_⟩
    intro isRemoved
    obtain ⟨newer, member, less⟩ := overtaken last (by simp) isRemoved
    refine ⟨newer, ?_, less⟩
    rw [← List.cons_append]
    exact List.mem_append_left rest member

theorem outlives_nil (ready : Sighting τ) : Outlives ready [] := by
  intro between removed rest split
  simp at split

theorem observe_stale {lastSeen : τ} {callable : Bool} {sighting : Sighting τ} (stale : sighting.time < lastSeen) :
    observe (some (lastSeen, callable)) sighting = some (lastSeen, callable) := by
  simp [observe, stale]

theorem observe_fresh {lastSeen : τ} (callable : Bool) {sighting : Sighting τ} (fresh : ¬sighting.time < lastSeen)
    (lifecycle : sighting.isLifecycle) :
    (sighting.type = .removed ∧ observe (some (lastSeen, callable)) sighting = none) ∨
      (sighting.type = .ready ∧ observe (some (lastSeen, callable)) sighting = some (sighting.time, true)) ∨
      (sighting.type = .lost ∧ observe (some (lastSeen, callable)) sighting = some (sighting.time, false)) := by
  rcases lifecycle with type | type | type
  · exact Or.inr (Or.inl ⟨type, by simp [observe, fresh, type]⟩)
  · exact Or.inr (Or.inr ⟨type, by simp [observe, fresh, type]⟩)
  · exact Or.inl ⟨type, by simp [observe, fresh, type]⟩

theorem observe_ready (presence : Option (τ × Bool)) {ready : Sighting τ} (isReady : ready.type = .ready) :
    ∃ lastSeen callable, observe presence ready = some (lastSeen, callable) ∧ ready.time ≤ lastSeen := by
  rcases presence with _ | ⟨lastSeen, callable⟩
  · exact ⟨ready.time, true, by simp [observe, isReady], le_rfl⟩
  · by_cases stale : ready.time < lastSeen
    · exact ⟨lastSeen, callable, observe_stale stale, stale.le⟩
    · exact ⟨ready.time, true, by simp [observe, isReady, stale], le_rfl⟩

/-- A READY that outlives what follows leaves a record, no older than anything
applied since. -/
theorem Outlives.observed {ready : Sighting τ} {later : List (Sighting τ)} (isReady : ready.type = .ready)
    (outlives : Outlives ready later) (lifecycle : ∀ sighting ∈ later, sighting.isLifecycle)
    (before : List (Sighting τ)) :
    ∃ lastSeen callable, observed (before ++ ready :: later) = some (lastSeen, callable) ∧
      ∀ sighting ∈ ready :: later, sighting.time ≤ lastSeen := by
  induction later using List.reverseRecOn with
  | nil =>
    obtain ⟨lastSeen, callable, seen, bound⟩ := observe_ready (Peers.observed before) isReady
    exact ⟨lastSeen, callable, by rw [observed_concat, seen], by simpa using bound⟩
  | append_singleton later last ih =>
    obtain ⟨earlier, overtaken⟩ := outlives_concat.mp outlives
    obtain ⟨lastSeen, callable, seen, bound⟩ :=
      ih earlier (fun sighting member => lifecycle sighting (List.mem_append_left _ member))
    rw [← List.cons_append, ← List.append_assoc, observed_concat, seen]
    have bounded : ∀ time, lastSeen ≤ time → last.time ≤ time →
        ∀ sighting ∈ ready :: later ++ [last], sighting.time ≤ time := by
      intro time atLeast own sighting member
      rcases List.mem_append.mp member with old | new
      · exact (bound sighting old).trans atLeast
      · rw [List.mem_singleton.mp new]
        exact own
    by_cases stale : last.time < lastSeen
    · exact ⟨lastSeen, callable, observe_stale stale, bounded lastSeen le_rfl stale.le⟩
    · rcases observe_fresh callable stale (lifecycle last (by simp)) with
        ⟨isRemoved, _⟩ | ⟨_, next⟩ | ⟨_, next⟩
      · obtain ⟨newer, member, less⟩ := overtaken isRemoved
        exact absurd (less.trans_le (bound newer member)) stale
      · exact ⟨last.time, true, next, bounded last.time (not_lt.mp stale) le_rfl⟩
      · exact ⟨last.time, false, next, bounded last.time (not_lt.mp stale) le_rfl⟩

/-- Where a record comes from: a READY that outlives what follows it, and the
newest sighting since then, which decides whether the peer is callable. -/
structure Origin (sightings : List (Sighting τ)) (lastSeen : τ) (callable : Bool) (before : List (Sighting τ))
    (ready : Sighting τ) (later : List (Sighting τ)) (newest : Sighting τ) : Prop where
  split : sightings = before ++ ready :: later
  isReady : ready.type = .ready
  outlives : Outlives ready later
  member : newest ∈ ready :: later
  time : newest.time = lastSeen
  type : newest.type = if callable then .ready else .lost

theorem observed_origin {sightings : List (Sighting τ)} (lifecycle : ∀ sighting ∈ sightings, sighting.isLifecycle)
    {lastSeen : τ} {callable : Bool} (seen : observed sightings = some (lastSeen, callable)) :
    ∃ before ready later newest, Origin sightings lastSeen callable before ready later newest := by
  induction sightings using List.reverseRecOn generalizing lastSeen callable with
  | nil => simp [observed] at seen
  | append_singleton sightings last ih =>
    rw [observed_concat] at seen
    have ofLast : last.isLifecycle := lifecycle last (by simp)
    have earlier := fun sighting member => lifecycle sighting (List.mem_append_left [last] member)
    rcases known : observed sightings with _ | ⟨oldSeen, oldCallable⟩
    · rw [known] at seen
      have isReady : last.type = .ready := by
        rcases ofLast with type | type | type
        · exact type
        · simp [observe, type] at seen
        · simp [observe, type] at seen
      simp only [observe, isReady, Option.some.injEq, Prod.mk.injEq] at seen
      obtain ⟨rfl, rfl⟩ := seen
      exact ⟨sightings, last, [], last, rfl, isReady, outlives_nil last, List.mem_singleton_self last, rfl, isReady⟩
    · obtain ⟨before, ready, later, newest, origin⟩ := ih earlier known
      have split : sightings ++ [last] = before ++ ready :: (later ++ [last]) := by
        rw [origin.split]
        simp
      rw [known] at seen
      by_cases stale : last.time < oldSeen
      · rw [observe_stale stale] at seen
        cases seen
        have outlives : Outlives ready (later ++ [last]) := by
          refine outlives_concat.mpr ⟨origin.outlives, fun _ => ⟨newest, origin.member, ?_⟩⟩
          rw [origin.time]
          exact stale
        exact ⟨before, ready, later ++ [last], newest, split, origin.isReady, outlives,
          by rw [← List.cons_append]; exact List.mem_append_left _ origin.member, origin.time, origin.type⟩
      · have member : last ∈ ready :: (later ++ [last]) := by simp
        rcases observe_fresh oldCallable stale ofLast with ⟨_, next⟩ | ⟨type, next⟩ | ⟨type, next⟩
        · rw [next] at seen
          cases seen
        · rw [next] at seen
          cases seen
          exact ⟨before, ready, later ++ [last], last, split, origin.isReady,
            outlives_concat.mpr ⟨origin.outlives, by simp [type]⟩, member, rfl, type⟩
        · rw [next] at seen
          cases seen
          exact ⟨before, ready, later ++ [last], last, split, origin.isReady,
            outlives_concat.mpr ⟨origin.outlives, by simp [type]⟩, member, rfl, type⟩

section Order

variable {sightings : List (Sighting τ)}

/-- The answers that follow from the timestamps alone. -/
def Verdict (sightings : List (Sighting τ)) (answer : Option Bool) : Prop :=
  (answer = some true ↔ Callable sightings) ∧ (answer.isSome ↔ Present sightings)

theorem Verdict.unique {left right : Option Bool} (atLeft : Verdict sightings left)
    (atRight : Verdict sightings right) : left = right := by
  have sameTrue := atLeft.1.trans atRight.1.symm
  have sameSome := atLeft.2.trans atRight.2.symm
  rcases left with _ | _ | _ <;> rcases right with _ | _ | _ <;> simp_all

theorem Verdict.perm {other : List (Sighting τ)} {answer : Option Bool} (order : sightings.Perm other)
    (verdict : Verdict sightings answer) : Verdict other answer := by
  simpa only [Verdict, Callable, Present, order.mem_iff] using verdict

variable (lifecycle : ∀ sighting ∈ sightings, sighting.isLifecycle)

include lifecycle

theorem kept_iff_observed : Kept sightings ↔ (observed sightings).isSome := by
  constructor
  · rintro ⟨before, ready, later, rfl, isReady, outlives⟩
    obtain ⟨lastSeen, callable, seen, _⟩ :=
      outlives.observed isReady (fun sighting member => lifecycle sighting (by simp [member])) before
    rw [seen]
    rfl
  · intro some
    obtain ⟨⟨lastSeen, callable⟩, seen⟩ := Option.isSome_iff_exists.mp some
    obtain ⟨before, ready, later, _, origin⟩ := observed_origin lifecycle seen
    exact ⟨before, ready, later, origin.split, origin.isReady, origin.outlives⟩

/-- A READY newer than every REMOVED leaves a record no older than itself. -/
theorem observed_of_present {ready : Sighting τ} (member : ready ∈ sightings) (isReady : ready.type = .ready)
    (beats : ∀ removed ∈ sightings, removed.type = .removed → removed.time < ready.time) :
    ∃ lastSeen callable, observed sightings = some (lastSeen, callable) ∧ ready.time ≤ lastSeen := by
  obtain ⟨before, later, rfl⟩ := List.append_of_mem member
  have outlives : Outlives ready later := by
    intro between removed rest split isRemoved
    exact ⟨ready, List.mem_cons_self, beats removed (by simp [split]) isRemoved⟩
  obtain ⟨lastSeen, callable, seen, bound⟩ :=
    outlives.observed isReady (fun sighting member => lifecycle sighting (by simp [member])) before
  exact ⟨lastSeen, callable, seen, bound ready List.mem_cons_self⟩

variable (distinct : (sightings.map Sighting.time).Nodup)

include distinct

omit [LinearOrder τ] lifecycle in
theorem eq_of_time {left right : Sighting τ} (atLeft : left ∈ sightings) (atRight : right ∈ sightings)
    (same : left.time = right.time) : left = right :=
  List.inj_on_of_nodup_map distinct atLeft atRight same

omit lifecycle in
theorem newest_beats_removed {ready : Sighting τ} (member : ready ∈ sightings) (isReady : ready.type = .ready)
    (newest : ∀ other ∈ sightings, other.time ≤ ready.time) :
    ∀ removed ∈ sightings, removed.type = .removed → removed.time < ready.time := by
  intro removed atRemoved isRemoved
  refine lt_of_le_of_ne (newest removed atRemoved) ?_
  intro same
  rw [eq_of_time distinct atRemoved member same, isReady] at isRemoved
  cases isRemoved

omit lifecycle in
theorem Callable.present (callable : Callable sightings) : Present sightings := by
  obtain ⟨ready, member, isReady, newest⟩ := callable
  exact ⟨ready, member, isReady, newest_beats_removed distinct member isReady newest⟩

/-- When the newest sighting is a READY, every order leaves the peer callable. -/
theorem observed_of_callable (callable : Callable sightings) : (observed sightings).map Prod.snd = some true := by
  obtain ⟨ready, member, isReady, newest⟩ := callable
  obtain ⟨lastSeen, answer, seen, atLeast⟩ :=
    observed_of_present lifecycle member isReady (newest_beats_removed distinct member isReady newest)
  obtain ⟨before, first, later, last, origin⟩ := observed_origin lifecycle seen
  have inside : last ∈ sightings := by
    rw [origin.split]
    exact List.mem_append_right before origin.member
  have same : last.time = ready.time := le_antisymm (newest last inside) (by rw [origin.time]; exact atLeast)
  have type := origin.type
  rw [eq_of_time distinct inside member same, isReady] at type
  cases answer with
  | true => simp [seen]
  | false => simp at type

omit distinct in
/-- A loss newer than every READY and applied to a kept record has the last
word about a peer that is present. -/
theorem observed_of_lost {before later : List (Sighting τ)} {lost : Sighting τ} (present : Present sightings)
    (split : sightings = before ++ lost :: later) (isLost : lost.type = .lost) (kept : Kept before)
    (newer : ∀ ready ∈ sightings, ready.type = .ready → ready.time < lost.time) :
    (observed sightings).map Prod.snd = some false := by
  obtain ⟨first, ready, between, rfl, isReady, outlives⟩ := kept
  obtain ⟨last, atLast, lastReady, beats⟩ := present
  have lossStays : Outlives ready (between ++ [lost]) := outlives_concat.mpr ⟨outlives, by simp [isLost]⟩
  have stays : Outlives ready ((between ++ [lost]) ++ later) := by
    refine lossStays.extend ?_
    intro removed member isRemoved
    refine ⟨lost, by simp, ?_⟩
    exact (beats removed (by simp [split, member]) isRemoved).trans (newer last atLast lastReady)
  have shape : sightings = first ++ ready :: ((between ++ [lost]) ++ later) := by simp [split]
  obtain ⟨lastSeen, callable, seen, bound⟩ :=
    stays.observed isReady (fun sighting member => lifecycle sighting (by rw [shape]; simp_all)) first
  rw [← shape] at seen
  obtain ⟨_, _, _, newest, origin⟩ := observed_origin lifecycle seen
  have inside : newest ∈ sightings := by
    rw [origin.split]
    exact List.mem_append_right _ origin.member
  cases callable with
  | false => simp [seen]
  | true =>
    have early := newer newest inside origin.type
    rw [origin.time] at early
    exact absurd (bound lost (by simp)) (not_le.mpr early)

/-- A peer that is present but not callable was lost after its last READY, at
a time when its record was kept. -/
theorem lost_of_observed (present : Present sightings) (answer : (observed sightings).map Prod.snd = some false) :
    ∃ before lost later, sightings = before ++ lost :: later ∧ lost.type = .lost ∧ Kept before ∧
      ∀ ready ∈ sightings, ready.type = .ready → ready.time < lost.time := by
  obtain ⟨⟨lastSeen, callable⟩, seen, rfl⟩ := Option.map_eq_some_iff.mp answer
  obtain ⟨before, ready, later, newest, origin⟩ := observed_origin lifecycle seen
  have isLost : newest.type = .lost := origin.type
  have after : newest ∈ later := by
    rcases List.mem_cons.mp origin.member with rfl | member
    · have isReady := origin.isReady
      rw [isLost] at isReady
      cases isReady
    · exact member
  obtain ⟨between, rest, rfl⟩ := List.append_of_mem after
  refine ⟨before ++ ready :: between, newest, rest, by simp [origin.split], isLost,
    ⟨before, ready, between, rfl, origin.isReady, origin.outlives.of_append⟩, ?_⟩
  -- The last READY beats every removal, so the record is at least as recent as it.
  have behind : ∀ other ∈ sightings, other.type = .ready →
      (∀ removed ∈ sightings, removed.type = .removed → removed.time < other.time) → other.time < newest.time := by
    intro other member isReady beats
    obtain ⟨otherSeen, _, same, atLeast⟩ := observed_of_present lifecycle member isReady beats
    rw [seen] at same
    cases same
    have inside : newest ∈ sightings := by
      rw [origin.split]
      exact List.mem_append_right _ origin.member
    refine lt_of_le_of_ne (by rw [origin.time]; exact atLeast) ?_
    intro equal
    rw [eq_of_time distinct member inside equal, isLost] at isReady
    cases isReady
  obtain ⟨last, atLast, lastReady, beats⟩ := present
  intro other member isReady
  rcases le_total other.time last.time with early | late
  · exact early.trans_lt (behind last atLast lastReady beats)
  · exact behind other member isReady
      (fun removed atRemoved isRemoved => (beats removed atRemoved isRemoved).trans_le late)

/-- An order is tolerated exactly when it ends with the answers that follow
from the timestamps. -/
theorem tolerated_iff : Tolerated sightings ↔ Verdict sightings ((observed sightings).map Prod.snd) := by
  have kept := kept_iff_observed lifecycle
  constructor
  · rintro ⟨absent, lost⟩
    by_cases present : Present sightings
    · by_cases callable : Callable sightings
      · have answer := observed_of_callable lifecycle distinct callable
        simp [Verdict, answer, callable, present]
      · obtain ⟨before, last, later, split, isLost, wasKept, newer⟩ := lost present callable
        have answer := observed_of_lost lifecycle present split isLost wasKept newer
        simp [Verdict, answer, callable, present]
    · have none : observed sightings = none := by
        rw [← Option.not_isSome_iff_eq_none, ← kept]
        exact absent present
      have notCallable : ¬Callable sightings := fun callable => present (callable.present distinct)
      simp [Verdict, none, notCallable, present]
  · rintro ⟨ofCallable, ofPresent⟩
    refine ⟨?_, ?_⟩
    · intro absent isKept
      exact absent (ofPresent.mp (by rw [Option.isSome_map]; exact kept.mp isKept))
    · intro present notCallable
      obtain ⟨answer, atAnswer⟩ := Option.isSome_iff_exists.mp (ofPresent.mpr present)
      cases answer with
      | true => exact absurd (ofCallable.mp atAnswer) notCallable
      | false => exact lost_of_observed lifecycle distinct present atAnswer

omit distinct in
/-- Timestamp order is tolerated. -/
theorem tolerated_of_ascending (ascending : sightings.Pairwise (fun left right => left.time < right.time)) :
    Tolerated sightings := by
  refine ⟨?_, ?_⟩
  · rintro absent ⟨before, ready, later, rfl, isReady, outlives⟩
    refine absent ⟨ready, by simp, isReady, ?_⟩
    obtain ⟨_, since, across⟩ := List.pairwise_append.mp ascending
    obtain ⟨afterReady, afterLater⟩ := List.pairwise_cons.mp since
    intro removed member isRemoved
    rcases List.mem_append.mp member with early | late
    · exact across removed early ready List.mem_cons_self
    · rcases List.mem_cons.mp late with rfl | late
      · rw [isReady] at isRemoved
        cases isRemoved
      · -- In timestamp order nothing applied before a removal is newer than it.
        exfalso
        obtain ⟨between, rest, rfl⟩ := List.append_of_mem late
        obtain ⟨newer, atNewer, less⟩ := outlives between removed rest rfl isRemoved
        rcases List.mem_cons.mp atNewer with rfl | between
        · exact lt_asymm less (afterReady removed (by simp))
        · exact lt_asymm less ((List.pairwise_append.mp afterLater).2.2 newer between removed List.mem_cons_self)
  · rintro ⟨ready, member, isReady, beats⟩ notCallable
    rcases List.eq_nil_or_concat sightings with rfl | ⟨front, last, rfl⟩
    · cases member
    · rw [List.concat_eq_append] at *
      obtain ⟨frontAscending, _, below⟩ := List.pairwise_append.mp ascending
      have newest : ∀ other ∈ front, other.time < last.time := fun other atOther => below other atOther last (by simp)
      have notReady : last.type ≠ .ready := by
        intro lastReady
        refine notCallable ⟨last, by simp, lastReady, ?_⟩
        intro other atOther
        rcases List.mem_append.mp atOther with old | new
        · exact (newest other old).le
        · rw [List.mem_singleton.mp new]
      have atFront : ready ∈ front := by
        rcases List.mem_append.mp member with old | new
        · exact old
        · rw [List.mem_singleton.mp new] at isReady
          exact absurd isReady notReady
      have isLost : last.type = .lost := by
        rcases lifecycle last (by simp) with type | type | type
        · exact absurd type notReady
        · exact type
        · exact absurd (beats last (by simp) type) (newest ready atFront).asymm
      refine ⟨front, last, [], rfl, isLost, ?_, ?_⟩
      · obtain ⟨before, later, rfl⟩ := List.append_of_mem atFront
        refine ⟨before, ready, later, rfl, isReady, ?_⟩
        intro between removed rest split isRemoved
        exact ⟨ready, List.mem_cons_self, beats removed (by simp [split]) isRemoved⟩
      · intro other atOther otherReady
        rcases List.mem_append.mp atOther with old | new
        · exact newest other old
        · rw [List.mem_singleton.mp new] at otherReady
          exact absurd otherReady notReady

end Order

end DEFw.Peers
