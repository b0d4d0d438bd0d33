import SaleSearch.Proofs.Catalog.Accounts

/-!
# Records of what a session does

Every generation of a session is at each time in the state that the record of what was done and seen
tells.

* `Tracks` is that agreement, and `Tallies` the part of it that is not about generations.
* `Tallies.commit`: a session shows what is owed of a changed generation, and what follows if the
  source answers at once.
* `Tracks.step` and `Tracks.run` are the results for a step and for a run; along with them goes that
  everything that is seen is allowed.
* `Session.after`, `Session.history` and `Session.recorded` speak of sessions from their beginning.
-/

namespace SaleSearch.Catalog

/-! ## A session with its record -/

/-- The source, the invalidations and the numbers of lookups and fetches are those of the record,
and a generation that has not begun is idle. -/
structure Tallies (r : Record) (s : Session) : Prop where
  source : r.source = s.source
  invalidations : r.invalidations = s.invalidations
  lookups : r.lookups.length = s.lookups
  fetches : r.fetches.length = s.fetches
  /-- Nothing has happened yet to a generation that has not begun. -/
  future : ∀ e, s.invalidations e.kind < e.number → s.generations e = .idle

/-- `Tallies`, and every generation `Accounts` for what is recorded of it. -/
structure Tracks (r : Record) (s : Session) : Prop extends Tallies r s where
  accounts : ∀ e, r.Accounts e (s.generations e)

lemma Session.mem_editions {s : Session} {e : Edition} :
    e ∈ s.editions ↔ e.number ≤ s.invalidations e.kind := by
  constructor
  · intro member
    obtain ⟨kind, -, inside⟩ := List.mem_flatMap.1 member
    obtain ⟨number, below, rfl⟩ := List.mem_map.1 inside
    exact Nat.le_of_lt_succ (List.mem_range.1 below)
  · intro begun
    have number : e.number ∈ List.range (s.invalidations e.kind + 1) :=
      List.mem_range.2 (Nat.lt_succ_of_le begun)
    exact List.mem_flatMap.2 ⟨e.kind, e.kind.mem_all, List.mem_map.2 ⟨e.number, number, rfl⟩⟩

/-! ### What a session shows of a change -/

namespace Session

variable {s : Session}

@[simp] lemma put_generations_self {e : Edition} {g : Generation} : (s.put e g).generations e = g :=
  if_pos rfl

lemma put_generations_of_ne {e e' : Edition} {g : Generation} (other : e' ≠ e) :
    (s.put e g).generations e' = s.generations e' :=
  if_neg other

/-- A commit, by what the source makes of the change. -/
lemma commit_of_reply {e : Edition} {changed : Generation × List Event} {g : Generation}
    {events : List Event} (h : s.reply e.kind changed = (g, events)) :
    s.commit e changed
      = ({ s.put e g with fetches := s.fetches + events.countP Event.isFetch },
          events.map fun event => ⟨e, event⟩) := by
  rw [commit, h]

/-- If `picks` holds of one generation only, that one is changed. -/
lemma change_eq {picks : Generation → Bool} {how : Generation → Generation × List Event}
    {e : Edition} (now : e ∈ s.editions) (here : picks (s.generations e) = true)
    (unique : ∀ e', picks (s.generations e') = true → e' = e) :
    s.change picks how = s.commit e (how (s.generations e)) := by
  suffices found : s.editions.find? (fun e => picks (s.generations e)) = some e by
    rw [change, found]
  cases found : s.editions.find? fun e => picks (s.generations e) with
  | some e' =>
      have holds : picks (s.generations e') = true := by simpa using List.find?_some found
      rw [unique e' holds]
  | none =>
      have missing := List.find?_eq_none.1 found e now
      exact absurd here missing

/-- If `picks` holds of no generation, nothing is changed. -/
lemma change_elsewhere {picks : Generation → Bool} {how : Generation → Generation × List Event}
    (elsewhere : ∀ e, picks (s.generations e) = false) : s.change picks how = (s, []) := by
  rw [change, List.find?_eq_none.2 fun e _ => by simp [elsewhere e]]

/-- Either nothing is changed, or a generation of which `picks` holds. -/
lemma change_cases (s : Session) (picks : Generation → Bool)
    (how : Generation → Generation × List Event) : s.change picks how = (s, [])
      ∨ ∃ e, picks (s.generations e) = true
        ∧ s.change picks how = s.commit e (how (s.generations e)) := by
  rw [change]
  cases found : s.editions.find? fun e => picks (s.generations e) with
  | none => exact .inl rfl
  | some e => exact .inr ⟨e, by simpa using List.find?_some found, rfl⟩

/-- What is seen of a commit is seen of the generation that is changed. -/
lemma mem_commit {e : Edition} {changed : Generation × List Event} {o : Occurrence} :
    o ∈ (s.commit e changed).2 ↔ o.edition = e ∧ o.event ∈ (s.reply e.kind changed).2 := by
  rw [commit, List.mem_map]
  constructor
  · rintro ⟨event, shown, rfl⟩
    exact ⟨rfl, shown⟩
  · rintro ⟨rfl, shown⟩
    exact ⟨o.event, shown, rfl⟩

/-- What is seen of a change is seen of the generation that is changed, of which `picks` holds. -/
lemma mem_change {picks : Generation → Bool} {how : Generation → Generation × List Event}
    {o : Occurrence} (seen : o ∈ (s.change picks how).2) : picks (s.generations o.edition) = true
      ∧ s.change picks how = s.commit o.edition (how (s.generations o.edition)) := by
  rcases s.change_cases picks how with unchanged | ⟨e, here, changed⟩
  · rw [unchanged] at seen
    cases seen
  · rw [changed] at seen
    obtain ⟨rfl, -⟩ := mem_commit.1 seen
    exact ⟨here, changed⟩

lemma countP_isFetch_finishes (lookups : List Lookup) (set : List String) :
    (lookups.map fun lookup => Event.finish lookup set).countP Event.isFetch = 0 := by
  simp [List.countP_eq_zero, Event.isFetch]

/-- The source adds nothing to a change without a fetch. -/
lemma reply_finishes (kind : Kind) (g : Generation) (lookups : List Lookup) (set : List String) :
    s.reply kind (g, lookups.map fun lookup => .finish lookup set)
      = (g, lookups.map fun lookup => .finish lookup set) := by
  simp [reply, Event.isFetch]

lemma reply_gated (gated : s.source.gated = true) (kind : Kind)
    (changed : Generation × List Event) : s.reply kind changed = changed := by
  simp [reply, gated]

/-- A fetch that is answered at once ends all lookups of its generation. -/
lemma reply_fetch (gated : s.source.gated = false) (kind : Kind) (runner : Lookup) (fetch : Nat)
    (waiting : List Lookup) :
    s.reply kind (.fetching runner fetch waiting, [.fetch fetch runner])
      = (.answered (s.source.replies kind).known, .fetch fetch runner ::
          (runner :: waiting).map fun lookup => .finish lookup (s.source.replies kind).known) := by
  simp [reply, gated, Event.isFetch, Generation.answer, Generation.unfinished]

end Session

/-- A change leaves a generation in this state, and this is shown of it. -/
structure Shows (r : Record) (s : Session) (e : Edition) (changed : Generation × List Event)
    (g : Generation) (shown : List Event) : Prop where
  reply : s.reply e.kind changed = (g, shown)
  allowed : r.AllowsEvents e shown
  same : Record.SameBut e r (r.seeAll e shown)
  fetches : (r.seeAll e shown).fetches.length = s.fetches + shown.countP Event.isFetch
  accounts : (r.seeAll e shown).Accounts e g

namespace Tallies

variable {r : Record} {s : Session} {e : Edition} {g : Generation}

/-- If the record has seen what happened to a generation, it agrees with the session again. -/
lemma tracks (h : Tallies r s) (now : e.number ≤ s.invalidations e.kind)
    (others : ∀ e', e' ≠ e → r.Accounts e' (s.generations e')) {r' : Record} {fetches : Nat}
    (same : Record.SameBut e r r') (numbers : r'.fetches.length = fetches)
    (accounts : r'.Accounts e g) :
    Tracks r' { s.put e g with fetches } where
  source := same.source.trans h.source
  invalidations := same.invalidations.trans h.invalidations
  lookups := same.lookups.trans h.lookups
  fetches := numbers
  future := by
    intro e' later
    have other : e' ≠ e := by
      rintro rfl
      exact absurd now (Nat.not_le.2 later)
    rw [← h.future e' later]
    exact Session.put_generations_of_ne other
  accounts := by
    intro e'
    show r'.Accounts e' ((s.put e g).generations e')
    by_cases here : e' = e
    · rw [here, Session.put_generations_self]
      exact accounts
    · rw [Session.put_generations_of_ne here]
      exact (others e' here).congr (same.underway e' here) (same.live e' here)

lemma shows_nothing (h : Tallies r s) (accounts : r.Accounts e g) : Shows r s e (g, []) g [] where
  reply := by simp [Session.reply]
  allowed := trivial
  same := .refl e r
  fetches := h.fetches
  accounts := accounts

lemma shows_finishes (h : Tallies r s) (coherent : Coherent r) {f : Fetch} {reply : Reply}
    (live : r.live e = [f]) (answered : f.course = .answered reply) :
    let events := (r.underway e).map fun lookup => Event.finish lookup reply.known
    Shows r s e (.answered reply.known, events) (.answered reply.known) events := by
  obtain ⟨allowed, same, fetches, accounts⟩ := Record.seeAll_finishes coherent live answered rfl
  refine ⟨s.reply_finishes .., allowed, same, ?_, accounts⟩
  rw [fetches, h.fetches, Session.countP_isFetch_finishes]
  rfl

section Fetches

variable {runner : Lookup} {waiting : List Lookup}

lemma length_fetches_fetch (h : Tallies r s) :
    (r.see ⟨e, .fetch r.fetches.length runner⟩).fetches.length = s.fetches + 1 := by
  simp [Record.see, h.fetches]

/-- A gated source leaves a fetch pending. -/
lemma shows_pending (h : Tallies r s) (gated : s.source.gated = true)
    (underway : r.underway e = runner :: waiting) (dead : r.live e = []) :
    let fetching := Generation.fetching runner r.fetches.length waiting
    let events := [Event.fetch r.fetches.length runner]
    Shows r s e (fetching, events) fetching events := by
  have mem : runner ∈ r.underway e := by simp [underway]
  have pending : (r.issue e r.fetches.length runner).course = .pending := by
    rw [Record.issue, h.source, gated]
    rfl
  have accounts : (r.see ⟨e, .fetch r.fetches.length runner⟩).live e = [{
      number := r.fetches.length, edition := e, issuer := runner.number, course := .pending }] := by
    rw [Record.live_first_fetch dead, ← pending]
    rfl
  exact ⟨Session.reply_gated gated .., ⟨⟨rfl, mem, dead⟩, trivial⟩, Record.sameBut_fetch ..,
    h.length_fetches_fetch, underway, accounts⟩

/-- A source that is not gated answers the fetch, and all lookups of the generation finish. -/
lemma shows_answered (h : Tallies r s) (coherent : Coherent r) (gated : s.source.gated = false)
    (underway : r.underway e = runner :: waiting) (dead : r.live e = []) :
    let set := (s.source.replies e.kind).known
    Shows r s e (.fetching runner r.fetches.length waiting, [.fetch r.fetches.length runner])
      (.answered set) (.fetch r.fetches.length runner ::
        (runner :: waiting).map fun lookup => .finish lookup set) := by
  have mem : runner ∈ r.underway e := by simp [underway]
  have answered : (r.issue e r.fetches.length runner).course
      = .answered (s.source.replies e.kind) := by
    rw [Record.issue, h.source, gated]
    rfl
  obtain ⟨allowed, same, fetches, accounts⟩ := Record.seeAll_finishes (coherent.fetch mem dead)
    (Record.live_first_fetch dead) answered underway
  refine ⟨Session.reply_fetch gated .., ⟨⟨rfl, mem, dead⟩, allowed⟩,
    (Record.sameBut_fetch ..).trans same, ?_, accounts⟩
  rw [List.countP_cons_of_pos rfl, Session.countP_isFetch_finishes]
  exact (congrArg List.length fetches).trans h.length_fetches_fetch

end Fetches

/-- Whatever is owed of a generation is shown in one of three ways. -/
lemma exists_shows (h : Tallies r s) (coherent : Coherent r) {events : List Event}
    (owes : r.Owes e g events) : ∃ g' shown, Shows r s e (g, events) g' shown := by
  cases owes with
  | nothing accounts => exact ⟨_, _, h.shows_nothing accounts⟩
  | finishes live answered known =>
      subst known
      exact ⟨_, _, h.shows_finishes coherent live answered⟩
  | fetch underway dead =>
      cases gated : s.source.gated with
      | true => exact ⟨_, _, h.shows_pending gated underway dead⟩
      | false => exact ⟨_, _, h.shows_answered coherent gated underway dead⟩

/-- A session shows what it owes of a generation, and what follows if the source answers at
once. -/
theorem commit (h : Tallies r s) (coherent : Coherent r) (now : e.number ≤ s.invalidations e.kind)
    (others : ∀ e', e' ≠ e → r.Accounts e' (s.generations e')) {events : List Event}
    (owes : r.Owes e g events) :
    r.AllowsAll ((s.commit e (g, events)).2.map .saw)
      ∧ Tracks (r.noteAll ((s.commit e (g, events)).2.map .saw)) (s.commit e (g, events)).1 := by
  obtain ⟨g', shown, shows⟩ := h.exists_shows coherent owes
  rw [Session.commit_of_reply shows.reply, List.map_map]
  exact ⟨shows.allowed, h.tracks now others shows.same shows.fetches shows.accounts⟩

end Tallies

/-! ### Steps -/

/-- After an action everything that is seen of it is allowed, and then record and session agree. -/
def Follows (r : Record) (s : Session) (action : Action) : Prop :=
  (r.act action).AllowsAll ((s.step action).2.map .saw)
    ∧ Tracks ((r.act action).noteAll ((s.step action).2.map .saw)) (s.step action).1

namespace Tracks

variable {r : Record} {s : Session}

/-- A generation that anything has happened to has begun. -/
lemma begun (h : Tracks r s) {p : Generation → Bool} (idle : p .idle = false) {e : Edition}
    (here : p (s.generations e) = true) : e.number ≤ s.invalidations e.kind := by
  by_contra later
  rw [h.future e (Nat.lt_of_not_le later), idle] at here
  cases here

/-- A generation is answered if one of its fetches was. -/
lemma isAnswered_iff (h : Tracks r s) (e : Edition) :
    (s.generations e).isAnswered = true ↔ ∃ f ∈ r.fetchesOf e, f.isAnswered = true := by
  have accounts := h.accounts e
  have alive : ∀ f : Fetch, f.isAnswered = true → f.course ≠ .abandoned := by
    intro f answered abandoned
    obtain ⟨reply, course⟩ := Fetch.isAnswered_iff.1 answered
    simp [course] at abandoned
  have live : (∃ f ∈ r.fetchesOf e, f.isAnswered = true) ↔ ∃ f ∈ r.live e, f.isAnswered = true := by
    constructor
    · rintro ⟨f, hf, answered⟩
      obtain ⟨hf, place⟩ := Record.mem_fetchesOf.1 hf
      exact ⟨f, Record.mem_live.2 ⟨hf, place, alive f answered⟩, answered⟩
    · rintro ⟨f, hf, answered⟩
      exact ⟨f, List.mem_of_mem_filter hf, answered⟩
  rw [live]
  cases state : s.generations e with
  | idle =>
      rw [state] at accounts
      simp [Generation.isAnswered, accounts.2]
  | fetching runner fetch waiting =>
      rw [state] at accounts
      simp [Generation.isAnswered, accounts.2, Fetch.isAnswered]
  | answered set =>
      rw [state] at accounts
      obtain ⟨-, f, reply, only, answered, -⟩ := accounts
      simp [Generation.isAnswered, only, Fetch.isAnswered, answered]

/-- No lookup of an answered generation is underway. -/
lemma underway_of_isAnswered (h : Tracks r s) {e : Edition}
    (answered : (s.generations e).isAnswered = true) : r.underway e = [] := by
  rw [(h.accounts e).underway_eq]
  cases state : s.generations e with
  | idle | answered => rfl
  | fetching => simp [state, Generation.isAnswered] at answered

/-- `Session.change_eq` for a generation that is not idle, and has begun therefore. -/
lemma change_eq (h : Tracks r s) {picks : Generation → Bool}
    {how : Generation → Generation × List Event} (idle : picks .idle = false) {e : Edition}
    (here : picks (s.generations e) = true)
    (unique : ∀ e', picks (s.generations e') = true → e' = e) :
    s.change picks how = s.commit e (how (s.generations e)) :=
  Session.change_eq (Session.mem_editions.2 (h.begun idle here)) here unique

/-- An action that changes one generation, if any: where it does not reach, the record says what it
said, and where it does, the change is owed. -/
lemma follows_change (h : Tracks r s) (coherent : Coherent r) {action : Action}
    {picks : Generation → Bool} {how : Generation → Generation × List Event}
    (step : s.step action = s.change picks how) (tallies : Tallies (r.act action) s)
    (idle : picks .idle = false)
    (unique : ∀ e e', picks (s.generations e) = true → picks (s.generations e') = true → e' = e)
    (elsewhere : ∀ e, picks (s.generations e) = false →
      (r.act action).Accounts e (s.generations e))
    (here : ∀ e, picks (s.generations e) = true →
      (r.act action).Owes e (how (s.generations e)).1 (how (s.generations e)).2) :
    Follows r s action := by
  rw [Follows, step]
  by_cases somewhere : ∃ e, picks (s.generations e) = true
  · obtain ⟨e, picked⟩ := somewhere
    rw [h.change_eq idle picked fun e' there => unique e e' picked there]
    refine tallies.commit (coherent.act action) (h.begun idle picked) (fun e' other => ?_)
      (here e picked)
    refine elsewhere e' ?_
    by_contra there
    exact other (unique e e' picked (by simpa using there))
  · have nowhere : ∀ e, picks (s.generations e) = false := by simpa using somewhere
    rw [Session.change_elsewhere nowhere]
    exact ⟨trivial, tallies, fun e => elsewhere e (nowhere e)⟩

/-- A lookup is unfinished in one generation only. -/
lemma eq_of_has (h : Tracks r s) (coherent : Coherent r) {e e' : Edition} {lookup : Nat}
    (here : (s.generations e).has lookup = true) (there : (s.generations e').has lookup = true) :
    e' = e := by
  obtain ⟨l, hl, rfl⟩ := (h.accounts e).has_iff.1 here
  obtain ⟨l', hl', same⟩ := (h.accounts e').has_iff.1 there
  exact coherent.edition_eq_of_underway hl' hl same

/-- A cancellation changes the generation that has the lookup. -/
lemma cancel_eq (h : Tracks r s) (coherent : Coherent r) {e : Edition} {lookup : Nat}
    (here : (s.generations e).has lookup = true) :
    s.cancel lookup = s.commit e ((s.generations e).drop s.fetches lookup) :=
  h.change_eq rfl here fun _ there => h.eq_of_has coherent here there

/-- The fetch that a generation waits for is pending in the record. -/
lemma mem_live_of_awaits (h : Tracks r s) {e : Edition} {fetch : Nat}
    (awaits : (s.generations e).awaits fetch = true) :
    ∃ f ∈ r.live e, f.number = fetch ∧ f.course = .pending := by
  have accounts := h.accounts e
  cases state : s.generations e with
  | idle | answered => simp [state, Generation.awaits] at awaits
  | fetching runner number waiting =>
      rw [state] at accounts awaits
      exact ⟨⟨number, e, runner.number, .pending⟩, by simp [accounts.2],
        by simpa [Generation.awaits] using awaits, rfl⟩

/-- A fetch is waited for by one generation only. -/
lemma eq_of_awaits (h : Tracks r s) (coherent : Coherent r) {e e' : Edition} {fetch : Nat}
    (here : (s.generations e).awaits fetch = true)
    (there : (s.generations e').awaits fetch = true) : e' = e := by
  obtain ⟨f, hf, rfl, -⟩ := h.mem_live_of_awaits here
  obtain ⟨f', hf', same, -⟩ := h.mem_live_of_awaits there
  obtain ⟨hf, place, -⟩ := Record.mem_live.1 hf
  obtain ⟨hf', place', -⟩ := Record.mem_live.1 hf'
  rw [coherent.eq_of_fetch_number hf' hf same] at place'
  exact place'.symm.trans place

/-- A reply changes the generation that waits for the fetch. -/
lemma answer_eq (h : Tracks r s) (coherent : Coherent r) {e : Edition} {fetch : Nat}
    (here : (s.generations e).awaits fetch = true) (reply : Reply) :
    s.answer fetch reply = s.commit e ((s.generations e).answer reply.known) :=
  h.change_eq rfl here fun _ there => h.eq_of_awaits coherent here there

/-- The record follows the beginning of a lookup. -/
lemma start (h : Tracks r s) (coherent : Coherent r) (kind : Kind) (question : Question) :
    Follows r s (.start kind question) := by
  have current : r.edition kind = s.edition kind := by
    rw [Record.edition, Session.edition, h.invalidations]
  have tallies : Tallies (r.act (.start kind question)) { s with lookups := s.lookups + 1 } :=
    ⟨h.source, h.invalidations, by simp [Record.act, h.lookups], h.fetches, h.future⟩
  refine tallies.commit (coherent.start kind question) (Nat.le_refl _) (fun e' other => ?_) ?_
  · refine (h.accounts e').congr ?_ rfl
    rw [Record.underway_start, if_neg (current ▸ Ne.symm other), List.append_nil]
  · have joined : (r.act (.start kind question)).underway (s.edition kind)
        = r.underway (s.edition kind) ++ [{ number := s.lookups, question }] := by
      rw [Record.underway_start, if_pos current, h.lookups]
    have owes := Record.owes_join (h.accounts (s.edition kind)) joined rfl
    rw [show (r.act (.start kind question)).fetches.length = s.fetches from h.fetches] at owes
    exact owes

/-- The record follows a cancellation. -/
lemma cancel (h : Tracks r s) (coherent : Coherent r) (lookup : Nat) :
    Follows r s (.cancel lookup) := by
  have tallies : Tallies (r.act (.cancel lookup)) s :=
    ⟨h.source, h.invalidations, (List.length_map _).trans h.lookups,
      (List.length_map _).trans h.fetches, h.future⟩
  refine h.follows_change coherent rfl tallies rfl ?_ ?_ ?_
  · intro e e' here there
    exact h.eq_of_has coherent here there
  · intro e elsewhere
    exact Record.accounts_cancel (h.accounts e) elsewhere
  · intro e here
    rw [← h.fetches]
    exact Record.owes_drop coherent (h.accounts e) here

/-- The record follows a reply. -/
lemma answer (h : Tracks r s) (coherent : Coherent r) (fetch : Nat) (reply : Reply) :
    Follows r s (.answer fetch reply) := by
  have tallies : Tallies (r.act (.answer fetch reply)) s :=
    ⟨h.source, h.invalidations, h.lookups, (List.length_map _).trans h.fetches, h.future⟩
  refine h.follows_change coherent rfl tallies rfl ?_ ?_ ?_
  · intro e e' here there
    exact h.eq_of_awaits coherent here there
  · intro e elsewhere
    exact Record.accounts_answer (h.accounts e) elsewhere reply
  · intro e here
    exact Record.owes_answer (h.accounts e) here reply

lemma hold (h : Tracks r s) (kind : Kind) (reply : Reply) : Follows r s (.hold kind reply) :=
  ⟨trivial, { h with
    source := congrArg (fun source : Source =>
      { source with replies := fun k => if k = kind then reply else source.replies k }) h.source }⟩

lemma gate (h : Tracks r s) (on : Bool) : Follows r s (.gate on) :=
  ⟨trivial, { h with
    source := congrArg (fun source : Source => { source with gated := on }) h.source }⟩

lemma invalidate (h : Tracks r s) (kind : Kind) : Follows r s (.invalidate kind) :=
  ⟨trivial, { h with
    invalidations := congrArg (fun n => fun k => n k + if k = kind then 1 else 0) h.invalidations
    future := fun e later => h.future e (Nat.lt_of_le_of_lt (Nat.le_add_right _ _) later) }⟩

/-- **The record follows every action.** -/
theorem step (h : Tracks r s) (coherent : Coherent r) (action : Action) : Follows r s action := by
  cases action with
  | hold kind reply => exact h.hold kind reply
  | gate on => exact h.gate on
  | start kind question => exact h.start coherent kind question
  | answer fetch reply => exact h.answer coherent fetch reply
  | cancel lookup => exact h.cancel coherent lookup
  | invalidate kind => exact h.invalidate kind

/-- **The record follows every run**, by induction on its actions. -/
theorem run (h : Tracks r s) (coherent : Coherent r) (actions : List Action) :
    r.AllowsAll (s.moments actions)
      ∧ Tracks (r.noteAll (s.moments actions)) (s.run actions).1 := by
  induction actions generalizing r s with
  | nil => exact ⟨trivial, h⟩
  | cons action rest ih =>
      obtain ⟨allowed, tracks⟩ := h.step coherent action
      obtain ⟨later, final⟩ := ih tracks ((coherent.act action).noteAll allowed)
      rw [← Record.noteAll_append] at final
      exact ⟨⟨trivial, (Record.allowsAll_append ..).2 ⟨allowed, later⟩⟩, final⟩

lemma empty : Tracks {} {} :=
  ⟨⟨rfl, rfl, rfl, rfl, fun _ _ => rfl⟩, fun _ => ⟨rfl, rfl⟩⟩

end Tracks

/-! ## Sessions from their beginning -/

namespace Session

/-- The state of a session after some actions. -/
def after (actions : List Action) : Session :=
  (({} : Session).run actions).1

/-- The moments of a session from its beginning. -/
def history (actions : List Action) : List Moment :=
  ({} : Session).moments actions

/-- The record of these moments. -/
def recorded (actions : List Action) : Record :=
  Record.of (history actions)

/-- The record of a session agrees with it. -/
lemma tracks_after (actions : List Action) : Tracks (recorded actions) (after actions) :=
  (Tracks.empty.run Coherent.empty actions).2

/-- The moments of a history up to any point are allowed, and so are those after it. -/
lemma allowsAll_of_history {actions : List Action} {past later : List Moment}
    (h : past ++ later <+: history actions) :
    Record.AllowsAll {} past ∧ (Record.of past).AllowsAll later := by
  obtain ⟨rest, whole⟩ := h
  have allowed := (Tracks.empty.run Coherent.empty actions).1
  rw [← history, ← whole, Record.allowsAll_append] at allowed
  exact (Record.allowsAll_append ..).1 allowed.1

/-- The record is coherent at any point of a history. -/
lemma coherent_of_history {actions : List Action} {past : List Moment}
    (h : past <+: history actions) : Coherent (Record.of past) := by
  rw [← List.append_nil past] at h
  exact Coherent.empty.noteAll (allowsAll_of_history h).1

lemma coherent_recorded (actions : List Action) : Coherent (recorded actions) :=
  coherent_of_history List.prefix_rfl

/-- Nothing is fetched any more for a generation of which a fetch was answered. -/
lemma fetchesOf_of_history {actions : List Action} {past later : List Moment}
    (h : past ++ later <+: history actions) {e : Edition} {f : Fetch}
    (hf : f ∈ (Record.of past).fetchesOf e) (answered : f.isAnswered = true) :
    (Record.of (past ++ later)).fetchesOf e = (Record.of past).fetchesOf e := by
  obtain ⟨reply, course⟩ := Fetch.isAnswered_iff.1 answered
  have coherent := coherent_of_history ((List.prefix_append past later).trans h)
  rw [Record.of, Record.noteAll_append]
  exact coherent.fetchesOf_noteAll hf course (allowsAll_of_history h).2

lemma run_append (s : Session) (first second : List Action) :
    s.run (first ++ second)
      = (((s.run first).1.run second).1, (s.run first).2 ++ ((s.run first).1.run second).2) := by
  induction first generalizing s with
  | nil => rfl
  | cons action rest ih => simp [run, ih]

/-- What is seen of a run is seen of one of its actions. -/
lemma mem_run {s : Session} {actions : List Action} {o : Occurrence}
    (seen : o ∈ (s.run actions).2) :
    ∃ past action later, actions = past ++ action :: later
      ∧ o ∈ ((s.run past).1.step action).2 := by
  induction actions generalizing s with
  | nil => cases seen
  | cons first rest ih =>
      rcases List.mem_append.1 seen with now | afterwards
      · exact ⟨[], first, rest, rfl, now⟩
      · obtain ⟨past, action, later, rfl, shown⟩ := ih afterwards
        exact ⟨first :: past, action, later, rfl, shown⟩

lemma moments_append (s : Session) (first second : List Action) :
    s.moments (first ++ second) = s.moments first ++ (s.run first).1.moments second := by
  induction first generalizing s with
  | nil => rfl
  | cons action rest ih => simp [moments, run, ih]

lemma after_concat (actions : List Action) (action : Action) :
    after (actions ++ [action]) = ((after actions).step action).1 := by
  rw [after, run_append]
  rfl

lemma history_append (first second : List Action) :
    history (first ++ second) = history first ++ (after first).moments second :=
  moments_append {} first second

end Session

end SaleSearch.Catalog
