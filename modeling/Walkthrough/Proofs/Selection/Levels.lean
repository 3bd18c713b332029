import Walkthrough.Proofs.Batches.Sequence
import Walkthrough.Proofs.Run.Idle
import Walkthrough.Selector

/-!
# Queries search level by level

A selector that is a chain of queries looks elements up level by level: the first query looks on the
page, and each later one inside every element of the level before it, in order. The next level is
what these lookups found, one after the other. The first lookup that raises is the last one, and its
failure is that of the selector. `Selector.findAll_searches` states that the lookups of a run and
its outcome are those of such a search (`Searched`), whatever the session answers.

A lookup leaves the state as it is, so what a flow found and what it asked for is all there is to
know of it (`History.Searches`). That is passed on from a flow to the one that goes on from its
elements.
-/

namespace Walkthrough

variable {H : Host} {α β : Type}

/-- One lookup: what is looked for and where, what the session replied, and what came of waiting for
the reply when that was needed. -/
structure Lookup (H : Host) where
  criterion : Criterion
  /-- The element to look inside, or none for the page. -/
  within : Option H.Element
  reply : Except Thrown (Reply H.World (List H.Element))
  awaited : Except Thrown (List H.Element)

namespace Lookup

/-- What a lookup gave in the end. -/
def answer (l : Lookup H) : Except Thrown (List H.Element) :=
  match l.reply with
  | .error e => .error e
  | .ok (.value found) => .ok found
  | .ok (.awaitable _) => l.awaited

/-- The label of a lookup that raises. -/
def label (criterion : Criterion) : Option H.Element → String
  | none => "Failed to find elements " ++ criterion.describe
  | some _ => "Failed to find elements " ++ criterion.describe ++ " inside an element"

/-- The failure of a lookup that raises. -/
def failure (l : Lookup H) (thrown : Thrown) : Failure :=
  .single .capability (label l.criterion l.within ++ ": " ++ thrown.detail) [] (some thrown.toFault)

theorem label_ne_empty (criterion : Criterion) (within : Option H.Element) :
    (label criterion within).isEmpty = false := by
  have hprefix : ∀ rest : String, ("Failed to find elements " ++ rest).isEmpty = false := by
    intro rest
    simp [String.isEmpty_eq_false_iff]
  cases within with
  | none => exact hprefix _
  | some element =>
    unfold label
    rw [String.append_assoc]
    exact hprefix _

theorem ofThrown_label (l : Lookup H) (thrown : Thrown) :
    Failure.ofThrown thrown (some (label l.criterion l.within)) = l.failure thrown := by
  have hlabel := label_ne_empty l.criterion l.within
  unfold failure
  generalize label l.criterion l.within = name at hlabel ⊢
  cases thrown <;> simp [Failure.ofThrown, hlabel]

/-- What is seen of a lookup from outside. -/
def events (session : H.Session) (l : Lookup H) : List (Event H) :=
  .did (.call session (.findElements l.criterion l.within)) l.reply ::
    match l.reply with
    | .ok (.awaitable code) => [.awaited code l.awaited]
    | _ => []

end Lookup

/-! ## Searches -/

/-- One level of a search: a query is looked up on the page or inside each of several elements, in
order, up to the first lookup that raises. -/
inductive Level (criterion : Criterion) :
    List (Option H.Element) → List (Lookup H) → Except Failure (List (List H.Element)) → Prop where
  | done : Level criterion [] [] (.ok [])
  | found {l : Lookup H} {found : List H.Element} {places : List (Option H.Element)}
      {lookups : List (Lookup H)} {result : Except Failure (List (List H.Element))}
      (asked : l.criterion = criterion) (answered : l.answer = .ok found)
      (rest : Level criterion places lookups result) :
      Level criterion (l.within :: places) (l :: lookups) (result.map (found :: ·))
  | raised {l : Lookup H} {thrown : Thrown} {places : List (Option H.Element)}
      (asked : l.criterion = criterion) (answered : l.answer = .error thrown) :
      Level criterion (l.within :: places) [l] (.error (l.failure thrown))

/-- A search: each query is looked up inside the elements of the level before it, which are those
that its lookups found, one after the other. -/
inductive Searched :
    List Criterion → List (Option H.Element) → List (Lookup H) → Except Failure (List H.Element) →
      Prop where
  | done (found : List H.Element) : Searched [] (found.map some) [] (.ok found)
  | level {criterion : Criterion} {criteria : List Criterion} {places : List (Option H.Element)}
      {lookups more : List (Lookup H)} {groups : List (List H.Element)}
      {result : Except Failure (List H.Element)}
      (first : Level criterion places lookups (.ok groups))
      (rest : Searched criteria (groups.flatten.map some) more result) :
      Searched (criterion :: criteria) places (lookups ++ more) result
  | raised {criterion : Criterion} {criteria : List Criterion} {places : List (Option H.Element)}
      {lookups : List (Lookup H)} {f : Failure}
      (first : Level criterion places lookups (.error f)) :
      Searched (criterion :: criteria) places lookups (.error f)

/-- One more query is looked up inside the elements that a search found. -/
theorem Searched.concat {criteria : List Criterion} {criterion : Criterion}
    {places : List (Option H.Element)} {lookups more : List (Lookup H)} {found : List H.Element}
    {result : Except Failure (List (List H.Element))}
    (h : Searched criteria places lookups (.ok found))
    (next : Level criterion (found.map some) more result) :
    Searched (criteria ++ [criterion]) places (lookups ++ more) (result.map List.flatten) := by
  -- the new level goes where the search came to its end
  generalize hresult : (Except.ok found : Except Failure _) = first at h
  induction h with
  | done found' =>
    cases hresult
    cases result with
    | ok groups =>
      have hlast := Searched.level next (.done groups.flatten)
      rwa [List.append_nil] at hlast
    | error f => exact .raised next
  | level first rest ih =>
    rw [List.append_assoc]
    exact .level first (ih hresult)
  | raised first => cases hresult

/-- After a lookup that raised there is no other one. -/
theorem Searched.concat_error {criteria : List Criterion} {places : List (Option H.Element)}
    {lookups : List (Lookup H)} {f : Failure} (h : Searched criteria places lookups (.error f))
    (more : List Criterion) : Searched (criteria ++ more) places lookups (.error f) := by
  generalize hresult : (Except.error f : Except Failure _) = last at h
  induction h with
  | done found => cases hresult
  | level first rest ih => exact .level first (ih hresult)
  | raised first => exact .raised first

/-! ## Histories -/

/-- The history is that of some lookups, started from a state without failures. With a value the
state is as it was; with a failure it has one line more and that failure, and what is seen after the
lookups asks no session for anything. -/
def History.Searches (session : H.Session) (s : H.State) (h : History H α)
    (lookups : List (Lookup H)) : Except Failure α → Prop
  | .ok a => h.events = lookups.flatMap (Lookup.events session) ∧ h.outcome = .of a s
  | .error f =>
    (∃ told, h.events = lookups.flatMap (Lookup.events session) ++ told ∧
      ∀ e ∈ told, ¬ e.AsksSession) ∧
    h.outcome = .fault (s.withLine .error f.message) f []

namespace History.Searches

variable {session : H.Session} {s : H.State} {h : History H α} {lookups more : List (Lookup H)}
  {a : α} {f : Failure} {result : Except Failure β}

theorem after {es : List (Event H)} {first : List (Lookup H)} {result : Except Failure α}
    (hes : es = first.flatMap (Lookup.events session)) (hh : h.Searches session s lookups result) :
    (h.after es).Searches session s (first ++ lookups) result := by
  subst hes
  cases result with
  | ok a => exact ⟨by simp [hh.1], hh.2⟩
  | error f =>
    obtain ⟨⟨told, hevents, htold⟩, houtcome⟩ := hh
    exact ⟨⟨told, by simp [hevents], htold⟩, houtcome⟩

/-- What follows a value comes after its lookups. -/
theorem onSuccess (hs : s.failures = []) (hh : h.Searches session s lookups (.ok a))
    {g : α → H.State → H.World → History H β}
    (hg : (g a s h.world).Searches session s more result) :
    (h.onSuccess g).Searches session s (lookups ++ more) result := by
  obtain ⟨hevents, houtcome⟩ := hh
  rw [Outcome.of_eq_success hs] at houtcome
  rw [History.onSuccess_of_success houtcome]
  exact hg.after hevents

/-- Nothing follows a failure. -/
theorem onSuccess_error (hh : h.Searches session s lookups (.error f))
    (g : α → H.State → H.World → History H β) :
    (h.onSuccess g).Searches session s lookups (.error f) := by
  obtain ⟨⟨told, hevents, htold⟩, houtcome⟩ := hh
  obtain ⟨events, o, w⟩ := h
  cases houtcome
  exact ⟨⟨told, by simpa [History.onSuccess, History.andThen, History.atOnce] using hevents, htold⟩,
    rfl⟩

end History.Searches

/-! ## Flows -/

namespace Flow

variable {d : Driver H} {session : H.Session} {env : H.Env} {s : H.State}

theorem searches_fail (quiet : H.Quiet) (hs : s.failures = []) (f : Failure) (w : H.World) :
    ((Flow.fail f : Flow H α).behaviour d env s w).Searches session s [] (.error f) := by
  obtain ⟨hevents, houtcome⟩ := keeps_fail (α := α) (d := d) quiet False f env hs w
  rw [behaviour_eq]
  refine ⟨⟨(((Flow.fail f : Flow H α) env s w).history d s).events.filter Event.isOutward, rfl,
    fun e he => ?_⟩, houtcome⟩
  exact (hevents e (List.mem_filter.mp he).1).not_asksSession

theorem behaviour_session (hsession : s.session = some session) (w : H.World) :
    (Flow.session : Flow H H.Session).behaviour d env s w = .atOnce (.of session s) w := by
  rw [behaviour_eq]
  unfold Flow.session
  rw [hsession]
  rfl

/-- What is seen once a call from outside has given a value, or has thrown. -/
def behaviourTried (d : Driver H) (label : String) (env : H.Env) (s : H.State)
    (given : Except Thrown α × H.World) : History H α :=
  match given with
  | (.ok a, w) => .atOnce (.of a s) w
  | (.error thrown, w) => (fail (.ofThrown thrown (some label))).behaviour d env s w

/-- What is seen once a call from outside has replied: what it gives is waited for if needed. -/
def behaviourReplied (d : Driver H) (label : String) (env : H.Env) (s : H.State)
    (replied : Except Thrown (Reply H.World α) × H.World) : History H α :=
  match replied with
  | (.error thrown, w) => behaviourTried d label env s (.error thrown, w)
  | (.ok (.value a), w) => behaviourTried d label env s (.ok a, w)
  | (.ok (.awaitable code), w) =>
    (behaviourTried d label env s (d.await code w)).after [.awaited code (d.await code w).1]

theorem behaviour_tryEffect (e : Effect H (Reply H.World α)) (label : String) (w : H.World) :
    (tryEffect e fun _ => .ok label).behaviour d env s w =
      (behaviourReplied d label env s (H.perform e w)).after [.did e (H.perform e w).1] := by
  have hfailed : ∀ (thrown : Thrown) (w : H.World),
      (((fail (.ofThrown thrown (some label)) : Flow H α).endWith env s w).history d s).outward =
        behaviourTried d label env s (.error thrown, w) :=
    fun thrown w => outward_endWith d env s w _ s
  rw [behaviour_eq]
  show (((Program.resolve _ _ _).history d s).after [.did e _]).outward = _
  rw [History.outward_after]
  congr 1
  rcases H.perform e w with ⟨thrown | reply, w'⟩
  · exact hfailed thrown w'
  · cases reply with
    | value a => rfl
    | awaitable code =>
      show ((Program.history d _ s).after [.awaited code _]).outward = _
      rw [History.outward_after]
      refine congrArg (History.after · _) ?_
      rcases d.await code w' with ⟨thrown | a, w''⟩
      · exact hfailed thrown w''
      · rfl

/-- Once a lookup was made and has given its answer, all that is left is to tell a failure. -/
theorem searches_tried (quiet : H.Quiet) (hs : s.failures = []) (l : Lookup H) (env : H.Env)
    (w : H.World) :
    ((behaviourTried d (Lookup.label l.criterion l.within) env s (l.answer, w)).after
      (l.events session)).Searches session s [l] (l.answer.mapError l.failure) := by
  have htold : (behaviourTried d (Lookup.label l.criterion l.within) env s
      (l.answer, w)).Searches session s [] (l.answer.mapError l.failure) := by
    cases l.answer with
    | ok found => exact ⟨rfl, rfl⟩
    | error thrown =>
      show ((Flow.fail (.ofThrown thrown (some _))).behaviour d env s w).Searches session s [] _
      rw [Lookup.ofThrown_label]
      exact searches_fail quiet hs _ w
  have hevents : l.events session = [l].flatMap (Lookup.events session) := by simp
  exact htold.after hevents

/-- A flow that makes one lookup gives what it found, or fails as it did. -/
theorem searches_lookup (quiet : H.Quiet) (hs : s.failures = [])
    (hsession : s.session = some session) (criterion : Criterion) (within : Option H.Element)
    (env : H.Env) (w : H.World) :
    ∃ l : Lookup H, l.criterion = criterion ∧ l.within = within ∧
      ((Flow.callSession (Lookup.label criterion within)
        (.findElements criterion within)).behaviour d env s w).Searches session s [l]
          (l.answer.mapError l.failure) := by
  have hbehaviour :
      (Flow.callSession (Lookup.label criterion within)
        (.findElements criterion within)).behaviour d env s w =
        (tryEffect (.call session (.findElements criterion within))
          fun _ => .ok (Lookup.label criterion within)).behaviour d env s w := by
    unfold Flow.callSession
    rw [behaviour_bind, behaviour_session hsession, History.atOnce_onSuccess hs]
    rfl
  rw [hbehaviour, behaviour_tryEffect]
  rcases H.perform (.call session (.findElements criterion within)) w with ⟨thrown | reply, w'⟩
  · exact ⟨⟨criterion, within, .error thrown, .ok []⟩, rfl, rfl,
      searches_tried (d := d) quiet hs ⟨criterion, within, .error thrown, .ok []⟩ env w'⟩
  · cases reply with
    | value found =>
      exact ⟨⟨criterion, within, .ok (.value found), .ok []⟩, rfl, rfl,
        searches_tried (d := d) quiet hs ⟨criterion, within, .ok (.value found), .ok []⟩ env w'⟩
    | awaitable code =>
      refine ⟨⟨criterion, within, .ok (.awaitable code), (d.await code w').1⟩, rfl, rfl, ?_⟩
      unfold behaviourReplied
      rw [History.after_after]
      exact searches_tried quiet hs
        ⟨criterion, within, .ok (.awaitable code), (d.await code w').1⟩ env (d.await code w').2

/-- The lookups inside several elements are a level. -/
theorem searches_sequenceFrom (quiet : H.Quiet) (hs : s.failures = [])
    (hsession : s.session = some session) (criterion : Criterion) (found : List H.Element)
    (gathered : List (List H.Element)) (env : H.Env) (w : H.World) (start : H.State) :
    ∃ lookups result, Level criterion (found.map some) lookups result ∧
      ((sequenceFrom env gathered (found.map (Step.lookUpInside criterion)) s w).history d
        start).outward.Searches session s lookups (result.map (gathered.reverse ++ ·)) := by
  -- along the elements; what they gave so far is gathered back to front
  induction found generalizing gathered w with
  | nil => exact ⟨[], .ok [], .done, rfl, by simp [sequenceFrom, Program.history]⟩
  | cons element found ih =>
    obtain ⟨l, hasked, hwithin, hlookup⟩ :=
      searches_lookup (d := d) quiet hs hsession criterion (some element) env w
    rw [List.map_cons, List.map_cons, outward_sequenceFrom_cons, ← hwithin]
    rcases hanswer : l.answer with thrown | elements
    · rw [hanswer] at hlookup
      exact ⟨[l], .error (l.failure thrown), .raised hasked hanswer, hlookup.onSuccess_error _⟩
    · rw [hanswer] at hlookup
      obtain ⟨lookups, result, hlevel, hrest⟩ := ih (elements :: gathered) _
      refine ⟨l :: lookups, _, .found hasked hanswer hlevel, ?_⟩
      have hgathered : (result.map (elements :: ·)).map (gathered.reverse ++ ·) =
          result.map ((elements :: gathered).reverse ++ ·) := by
        cases result <;> simp [Except.map]
      rw [hgathered]
      exact hlookup.onSuccess hs hrest

/-- Looking a query up inside the elements found so far is one more level. -/
theorem searches_lookUpInsideAll (quiet : H.Quiet) (hs : s.failures = [])
    (hsession : s.session = some session) (criterion : Criterion) (found : List H.Element)
    (env : H.Env) (w : H.World) :
    ∃ lookups result, Level criterion (found.map some) lookups result ∧
      ((Step.lookUpInsideAll criterion found).behaviour d env s w).Searches session s lookups
        (result.map List.flatten) := by
  unfold Step.lookUpInsideAll
  cases found with
  | nil =>
    refine ⟨[], .ok [], .done, ?_⟩
    simp only [List.isEmpty_nil, if_true]
    rw [behaviour_pure]
    exact ⟨rfl, rfl⟩
  | cons element found =>
    obtain ⟨lookups, result, hlevel, hsequence⟩ :=
      searches_sequenceFrom (d := d) quiet hs hsession criterion (element :: found) [] env w s
    refine ⟨lookups, result, hlevel, ?_⟩
    simp only [List.isEmpty_cons, Bool.false_eq_true, if_false]
    rw [behaviour_map, behaviour_eq]
    rcases result with f | groups
    · exact hsequence.onSuccess_error _
    · have hflatten : ∀ w', (behaviourGiven s (Act.ok groups.flatten w') s).Searches session s []
          (.ok groups.flatten) := fun w' => ⟨rfl, rfl⟩
      have hdone := hsequence.onSuccess hs
        (g := fun a t w' => behaviourGiven t (Act.ok a.flatten w') s) (hflatten _)
      rwa [List.append_nil] at hdone

/-- Started without failures and with a session, the flow makes the lookups of a search and ends as
it does. -/
def Finds (d : Driver H) (session : H.Session) (c : Flow H (List H.Element))
    (criteria : List Criterion) : Prop :=
  ∀ env s w, s.failures = [] → s.session = some session →
    ∃ lookups result, Searched criteria [none] lookups result ∧
      (c.behaviour d env s w).Searches session s lookups result

theorem finds_lookUp (quiet : H.Quiet) (criterion : Criterion) :
    (Step.lookUp criterion).Finds d session [criterion] := by
  intro env s w hs hsession
  obtain ⟨l, hasked, hwithin, hlookup⟩ :=
    searches_lookup (d := d) quiet hs hsession criterion none env w
  rcases hanswer : l.answer with thrown | found
  · rw [hanswer] at hlookup
    exact ⟨[l], _, .raised (hwithin ▸ .raised hasked hanswer), hlookup⟩
  · rw [hanswer] at hlookup
    have hlevel : Level criterion [none] [l] (.ok [found]) :=
      hwithin ▸ .found hasked hanswer .done
    have hsearched := Searched.level hlevel (.done [found].flatten)
    rw [List.flatten_singleton] at hsearched
    exact ⟨[l], .ok found, hsearched, hlookup⟩

/-- One more query is one more level. -/
theorem Finds.compile {before : Flow H (List H.Element)} {criteria : List Criterion}
    (quiet : H.Quiet) (h : before.Finds d session criteria) (criterion : Criterion) :
    ((Step.query criterion).compile (some before)).Finds d session (criteria ++ [criterion]) := by
  intro env s w hs hsession
  obtain ⟨lookups, result, hsearched, hbefore⟩ := h env s w hs hsession
  show ∃ lookups result, _ ∧ ((before.bind _).behaviour d env s w).Searches _ _ _ _
  rw [behaviour_bind]
  rcases result with f | found
  · exact ⟨lookups, .error f, hsearched.concat_error _, hbefore.onSuccess_error _⟩
  · obtain ⟨more, groups, hlevel, hnext⟩ :=
      searches_lookUpInsideAll (d := d) quiet hs hsession criterion found env
        (before.behaviour d env s w).world
    exact ⟨lookups ++ more, _, hsearched.concat hlevel, hbefore.onSuccess hs hnext⟩

end Flow

namespace Selector

variable {d : Driver H} {session : H.Session}

theorem finds_compileSteps (quiet : H.Quiet) {before : Flow H (List H.Element)}
    {criteria : List Criterion} (h : before.Finds d session criteria) (more : List Criterion) :
    ∃ c, compileSteps (some before) (more.map Step.query) = some c ∧
      c.Finds d session (criteria ++ more) := by
  induction more generalizing before criteria with
  | nil => exact ⟨before, rfl, by rwa [List.append_nil]⟩
  | cons criterion more ih =>
    obtain ⟨c, hcompiled, hc⟩ := ih (h.compile quiet criterion)
    exact ⟨c, hcompiled, by rwa [List.append_assoc] at hc⟩

/-- A selector that is a chain of queries searches level by level: the lookups that it makes, and
how it ends, are those of a search. -/
theorem findAll_searches (quiet : H.Quiet) {a : Selector H} {first : Criterion}
    {rest : List Criterion} (ha : a.steps = (first :: rest).map Step.query) (env : H.Env)
    {s : H.State} (hs : s.failures = []) (hsession : s.session = some session) (w : H.World) :
    ∃ lookups result, Searched (first :: rest) [none] lookups result ∧
      (a.findAll.behaviour d env s w).Searches session s lookups result := by
  have hfirst : (Step.lookUp first).Finds d session [first] := Flow.finds_lookUp quiet first
  obtain ⟨c, hcompiled, hc⟩ := finds_compileSteps quiet hfirst rest
  have hfind : a.findAll = c := by
    have hsteps : compileSteps none a.steps = some c := by
      rw [ha]
      exact hcompiled
    unfold findAll compile
    rw [hsteps]
    rfl
  rw [hfind]
  exact hc env s w hs hsession

/-- A host like `Host.refusing` whose first two lookups find two elements each. -/
abbrev findingTwice : Host :=
  { Host.refusing with
    call := fun session command w =>
      match command with
      | .findElements criterion within =>
        if w < 2 then (.ok (.value [(), ()]), w + 1)
        else Host.refusing.call session (.findElements criterion within) w
      | command => Host.refusing.call session command w }

/-- A chain of three queries. The third lookup, inside the second element of the first level,
raises, and there is no fourth one. -/
theorem findAll_searches_raising :
    let a : Selector findingTwice :=
      .ofCriterion ⟨.css, "ul"⟩ ++ .ofCriterion ⟨.css, "li"⟩ ++ .ofCriterion ⟨.css, "a"⟩
    let s : findingTwice.State := findingTwice.initialState (some ()) { sinks := () }
    let run := a.findAll.behaviour .blocking () s (0 : Nat)
    (∃ lookups result,
      Searched [⟨.css, "ul"⟩, ⟨.css, "li"⟩, ⟨.css, "a"⟩] [none] lookups result ∧
        run.Searches () s lookups result) ∧
      run.world = (3 : Nat) ∧
      run.outcome.failures.map Failure.kindName = ["CapabilityFailure"] := by
  intro a s run
  have quiet : findingTwice.Quiet := ⟨fun _ _ _ w => ⟨w, rfl⟩, fun _ _ w => ⟨w, rfl⟩⟩
  have hsteps : a.steps = (⟨.css, "ul"⟩ :: [⟨.css, "li"⟩, ⟨.css, "a"⟩]).map Step.query := rfl
  have hrun : run = ((a.findAll () s (0 : Nat)).history .blocking s).outward :=
    Flow.behaviour_eq ..
  refine ⟨findAll_searches quiet hsteps () (s := s) rfl rfl (0 : Nat), ?_, ?_⟩
  · rw [hrun]
    decide +kernel
  · rw [hrun]
    decide +kernel

end Selector

end Walkthrough
