import SaleSearch.Proofs.Verification.Stages

/-!
# What a verification fetches

All fetches of a verification are issued by its lookups.  A lookup of a kind that is neither loaded
nor being fetched issues one, as soon as it begins; of a kind that is loaded it issues none; and one
that shares a fetch issues none either, unless whoever ran that fetch gives it up.

* `Stage.fetches_of_lacks`, `Stage.fetches_of_isLoaded` and `Stage.takesOver_of_mem_fetches` are
  these three cases, and `Stage.length_fetches_le` says that there is never more than one fetch.
* `caused` are the fetches of some stages, picked by the numbers of their lookups from all that is
  seen.
* `caused_eq` says that these are the fetches of each stage in their order.
-/

namespace SaleSearch

open Catalog

namespace Verification

namespace Stage

variable {st : Stage} {o : Occurrence}

lemma mem_fetches : o ∈ st.fetches ↔ o ∈ fetchesSeen st.seen
    ∧ o.event.lookup.number = st.lookup.number := by
  simp [fetches]

/-- The session just after the lookup has begun. -/
def begun (st : Stage) : Session :=
  (st.found.start st.kind st.lookup.question).1

lemma seen_eq (st : Stage) : st.seen = (st.found.start st.kind st.lookup.question).2
    ++ (st.begun.run st.interlude.meanwhile).2 :=
  rfl

lemma edition_of_mem_fetches (tracked : st.found.Tracked) (ho : o ∈ st.fetches) :
    o.edition = st.edition := by
  obtain ⟨seen, own⟩ := mem_fetches.1 ho
  exact tracked.edition_of_seen (List.mem_of_mem_filter seen) own

/-- A lookup that finds what it looks for issues no fetch. -/
lemma fetches_of_answered (tracked : st.found.Tracked) {set : List String}
    (answered : st.found.generations st.edition = .answered set) : st.fetches = [] := by
  rw [List.eq_nil_iff_forall_not_mem]
  intro o ho
  exact Session.edition_ne_of_answered_run answered (mem_fetches.1 ho).1
    (edition_of_mem_fetches tracked ho)

lemma fetches_of_isLoaded (tracked : st.found.Tracked)
    (loaded : st.found.isLoaded st.kind = true) : st.fetches = [] := by
  obtain ⟨set, answered⟩ := Generation.isAnswered_iff.1 loaded
  exact fetches_of_answered tracked answered

/-- A lookup that has to fetch does so as it begins, and not again. -/
lemma fetches_of_lacks (tracked : st.found.Tracked) (lacks : st.found.Lacks st.kind) :
    st.fetches = [⟨st.edition, .fetch st.found.fetches st.lookup⟩] := by
  have first := Session.fetchesSeen_start lacks st.lookup.question
  have nodup := tracked.issuers_nodup st.window
  have split : fetchesSeen (st.found.run st.window).2
      = ⟨st.edition, .fetch st.found.fetches st.lookup⟩
        :: fetchesSeen (st.begun.run st.interlude.meanwhile).2 := by
    rw [show (st.found.run st.window).2 = st.seen from rfl, seen_eq, fetchesSeen,
      List.filter_append]
    exact congrArg (· ++ _) first
  rw [split, List.map_cons, List.nodup_cons] at nodup
  rw [fetches, seen, split, List.filter_cons_of_pos (by simp [Event.lookup])]
  congr 1
  rw [List.filter_eq_nil_iff]
  intro o later same
  exact nodup.1 (List.mem_map.2 ⟨o, later, of_decide_eq_true same⟩)

/-- The lookup takes over from another one that was given up while it ran the fetch. -/
def TakesOver (st : Stage) : Prop :=
  ∃ earlier later runner fetch oldest others,
    st.interlude.meanwhile = earlier ++ .cancel runner.number :: later
      ∧ (st.begun.run earlier).1.generations st.edition
        = .fetching runner fetch (oldest :: others)
      ∧ oldest.number = st.lookup.number

/-- A lookup that shares a fetch issues one itself only if it takes over. -/
lemma takesOver_of_mem_fetches (tracked : st.found.Tracked) (has : ¬st.found.Lacks st.kind)
    (ho : o ∈ st.fetches) : st.TakesOver := by
  have place := edition_of_mem_fetches tracked ho
  obtain ⟨seen, own⟩ := mem_fetches.1 ho
  rw [seen_eq, fetchesSeen, List.filter_append] at seen
  have none := Session.fetchesSeen_start_of_not_lacks has st.lookup.question
  rw [fetchesSeen] at none
  rw [none, List.nil_append, List.mem_filter] at seen
  obtain ⟨seen, fetch⟩ := seen
  obtain ⟨earlier, action, later, split, shown⟩ := Session.mem_run seen
  obtain ⟨e, event⟩ := o
  obtain rfl : e = st.edition := place
  cases event with
  | finish l set => cases fetch
  | fetch number issuer =>
      rcases Session.fetch_step shown with
        ⟨kind, question, -, -, rfl, -⟩ | ⟨runner, fetch, others, rfl, state⟩
      -- a lookup that begins meanwhile has a higher number
      · have begun : st.begun.Tracked := tracked.run [.start st.kind st.lookup.question]
        have later := begun.lookups_le earlier
        have counted : st.begun.lookups = st.found.lookups + 1 := rfl
        have same : (st.begun.run earlier).1.lookups = st.found.lookups := own
        omega
      · exact ⟨earlier, later, runner, fetch, issuer, others, split, state, own⟩

lemma length_fetches_le (tracked : st.found.Tracked) : st.fetches.length ≤ 1 := by
  have once := List.nodup_iff_count_le_one.1 (tracked.issuers_nodup st.window) st.lookup.number
  rw [List.count, List.countP_map, List.countP_eq_length_filter] at once
  exact once

/-- When the lookup has returned, its generation is answered. -/
lemma answered (tracked : st.found.Tracked) {set : List String}
    (given : st.consultation.answer = some set) : st.after.generations st.edition = .answered set :=
  tracked.answered_of_given given

end Stage

/-! ## All stages together -/

/-- The fetches that the lookups of some stages issue, among all that is seen. -/
def caused (stages : List Stage) (seen : List Occurrence) : List Occurrence :=
  (fetchesSeen seen).filter fun o => o.event.lookup.number ∈ stages.map fun st => st.lookup.number

namespace Linked

variable {session : Session} {stages : List Stage}

lemma tracked (h : Linked session stages) (tracked : session.Tracked) :
    ∀ st ∈ stages, st.found.Tracked ∧ session.lookups ≤ st.found.lookups := by
  induction h with
  | nil => exact List.forall_mem_nil _
  | @cons session stage rest found returned later ih =>
      have began : stage.found.Tracked := found ▸ tracked.run _
      have first : session.lookups ≤ stage.found.lookups := found ▸ tracked.lookups_le _
      refine List.forall_mem_cons.2 ⟨⟨began, first⟩, fun st hst => ?_⟩
      obtain ⟨found', last⟩ := ih (began.run stage.window) st hst
      exact ⟨found', Nat.le_trans first (Nat.le_trans (began.lookups_le _) last)⟩

end Linked

lemma notMem_numbers {stages : List Stage} {bound number : Nat}
    (higher : ∀ st ∈ stages, bound ≤ st.found.lookups) (lower : number < bound) :
    number ∉ stages.map fun st => st.lookup.number := by
  intro mem
  obtain ⟨st, hst, same⟩ := List.mem_map.1 mem
  exact Nat.not_le_of_lt lower (Nat.le_trans (higher st hst) (Nat.le_of_eq same))

/-- The numbers of lookups go on from stage to stage, so that a fetch that is issued by the lookup
of a stage is seen there and nowhere else. -/
lemma caused_cons {session : Session} {stage : Stage} {rest : List Stage}
    (tracked : session.Tracked) (found : stage.found = (session.run stage.interlude.before).1)
    (higher : ∀ st ∈ rest, stage.after.lookups ≤ st.found.lookups)
    (settled : ∀ o ∈ fetchesSeen (stage.after.run (done rest)).2,
      o.event.lookup.number ≠ stage.lookup.number) :
    caused (stage :: rest) (session.run (done (stage :: rest))).2
      = stage.fetches ++ caused rest (stage.after.run (done rest)).2 := by
  have began : stage.found.Tracked := found ▸ tracked.run _
  have all_higher : ∀ st ∈ stage :: rest, stage.found.lookups ≤ st.found.lookups :=
    List.forall_mem_cons.2 ⟨Nat.le_refl _, fun st hst =>
      Nat.le_trans (began.lookups_le stage.window) (higher st hst)⟩
  -- what is seen before the lookup begins is seen of lookups with lower numbers
  have before : (fetchesSeen (session.run stage.interlude.before).2).filter
      (fun o => o.event.lookup.number ∈ (stage :: rest).map fun st => st.lookup.number) = [] := by
    refine List.filter_eq_nil_iff.2 fun o ho own => ?_
    have lower := tracked.number_lt (List.mem_of_mem_filter ho)
    rw [← found] at lower
    exact notMem_numbers all_higher lower (of_decide_eq_true own)
  have here : (fetchesSeen stage.seen).filter
      (fun o => o.event.lookup.number ∈ (stage :: rest).map fun st => st.lookup.number)
        = stage.fetches := by
    refine List.filter_congr fun o ho => decide_eq_decide.2 ?_
    have lower := began.number_lt (List.mem_of_mem_filter ho)
    rw [List.map_cons, List.mem_cons]
    exact or_iff_left (notMem_numbers higher lower)
  have later : (fetchesSeen (stage.after.run (done rest)).2).filter
      (fun o => o.event.lookup.number ∈ (stage :: rest).map fun st => st.lookup.number)
        = caused rest (stage.after.run (done rest)).2 := by
    refine List.filter_congr fun o ho => decide_eq_decide.2 ?_
    rw [List.map_cons, List.mem_cons]
    exact or_iff_right (settled o ho)
  rw [caused, run_done_cons found, fetchesSeen, List.filter_append, List.filter_append,
    List.filter_append, List.filter_append]
  rw [fetchesSeen] at before here later
  rw [before, here, later, List.nil_append]

/-- **What a verification causes is what its lookups issue, one after another.**  By induction on
the stages. -/
theorem caused_eq {session : Session} {stages : List Stage} (h : Linked session stages)
    (tracked : session.Tracked) :
    caused stages (session.run (done stages)).2 = stages.flatMap Stage.fetches := by
  induction h with
  | nil => rfl
  | @cons session stage rest found returned later ih =>
      have began : stage.found.Tracked := found ▸ tracked.run _
      have after : stage.after.Tracked := began.run stage.window
      have higher := fun st hst => (later.tracked after st hst).2
      -- the lookup has returned before the next stage begins, and for what is answered nothing is
      -- fetched any more
      have settled : ∀ o ∈ fetchesSeen (stage.after.run (done rest)).2,
          o.event.lookup.number ≠ stage.lookup.number := by
        intro o ho own
        have more : rest ≠ [] := by
          rintro rfl
          cases ho
        obtain ⟨set, given⟩ := returned more
        refine Session.edition_ne_of_answered_run (Stage.answered began given) ho ?_
        have whole : o ∈ (stage.found.run (stage.window ++ done rest)).2 := by
          rw [Session.run_append]
          exact List.mem_append_right _ (List.mem_of_mem_filter ho)
        exact began.edition_of_seen whole own
      rw [caused_cons tracked found higher settled, ih after, List.flatMap_cons]

lemma Course.Passes.caused_eq {course : Course} {session : Session} {stages : List Stage}
    (passes : course.Passes session stages) (tracked : session.Tracked) :
    caused stages course.seen = stages.flatMap Stage.fetches := by
  rw [passes.seen_eq, Verification.caused_eq passes.linked tracked]

end Verification

end SaleSearch
