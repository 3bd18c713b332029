import Walkthrough.Proofs.Batches.Sequence
import Walkthrough.Proofs.Elements.Unread
import Walkthrough.Proofs.Run.Ends

/-!
# Snapshots and the calls behind them

When a snapshot succeeds, it holds what the session has answered about each element that was found,
in the order of the elements (`Snapshot.Album`): a batch gives the values of its items one after the
other (`Flow.GivesAll`), and each probe gives one answer.

`Selector.snapshot_unread` puts this together with the fact that identifiers which cannot be read
change nothing. The search comes first, and its conditions may ask for identifiers themselves; what
they make of an error is their own affair (`Selector.snapshot_unread_filtered`).
-/

namespace Walkthrough

variable {Seen : Type} {H : Host} {α β : Type} {seen : H.World → Seen} {d : Driver H}

/-! ## Successes and what they come from -/

namespace Flow

variable {env : H.Env} {s t : H.State} {w v : H.World} {sound : t.failures = []}

/-- The flows are run one after the other, and each one gives a value. -/
inductive GivesAll (d : Driver H) (env : H.Env) :
    List (Flow H α) → H.State → H.World → List α → H.State → H.World → Prop where
  | nil (s : H.State) (w : H.World) : GivesAll d env [] s w [] s w
  | cons {c : Flow H α} {cs : List (Flow H α)} {s t u : H.State} {w v x : H.World} {a : α}
      {values : List α} {sound : t.failures = []}
      (first : c.Ends d env s w (.success a t sound) v) (rest : GivesAll d env cs t v values u x) :
      GivesAll d env (c :: cs) s w (a :: values) u x

theorem givesAll_of_taken {xs : List (Batch.Turn H α)} {values : List α}
    (htaken : Batch.Taken d env s w xs t v)
    (hgiven : xs.map (Batch.Turn.given? d env) = values.map some) :
    GivesAll d env (xs.map Batch.Turn.item) s w values t v := by
  induction htaken generalizing values with
  | none s w =>
    obtain rfl : values = [] := by simpa using hgiven.symm
    exact .nil s w
  | @next s t w v xs item htaken ih =>
    cases values with
    | nil => cases hgiven
    | cons a values =>
      obtain ⟨hfirst, hgiven⟩ := List.cons.inj hgiven
      obtain ⟨u, sound, ho⟩ := Batch.Turn.given?_eq_some hfirst
      have ho : (item.history d env s w).outcome = .success a u sound := ho
      have hrest := ih hgiven
      rw [ho] at hrest
      have hstate : (Outcome.success a u sound : Outcome H α).state.withFailures [] = u :=
        RunState.withFailures_eq_self sound
      rw [hstate] at hrest
      exact .cons ⟨ho, rfl⟩ hrest

/-- A sequence that succeeds has a value from each of its items. -/
theorem givesAll_of_sequence {items : List (Flow H α)} {values : List α} (hs : s.failures = [])
    (h : (sequence items).Ends d env s w (.success values t sound) v) :
    GivesAll d env items s w values t v := by
  obtain ⟨houtcome, rfl⟩ := h
  obtain ⟨xs, u, v', htaken, rfl⟩ := Batch.exists_taken d env items s w
  rcases Batch.given_or_failed d env xs with
    ⟨values', hgiven⟩ | ⟨before, x, after, values', rfl, hgiven, hfailed⟩
  · have hgives := leads_sequence_of_given htaken hs hgiven
    cases houtcome.symm.trans (outcome_of_leads hgives)
    rw [world_of_leads hgives]
    exact givesAll_of_taken htaken hgiven
  · obtain ⟨value?, u', unsound, hx⟩ := Batch.Turn.given?_eq_none hfailed
    have hfails := leads_sequence_of_failed htaken.split.1 hs hgiven hx (after.map Batch.Turn.item)
    rw [List.map_append, List.map_cons] at houtcome
    cases houtcome.symm.trans (outcome_of_leads hfails)

/-- The value of a flow that is mapped comes from a value of the flow. -/
theorem success_of_map_ok {c : Flow H α} {f : α → β} {b : β}
    (h : (c.map fun a => .ok (f a)).Ends d env s w (.success b t sound) v) :
    ∃ a, c.Ends d env s w (.success a t sound) v ∧ b = f a := by
  obtain ⟨houtcome, hworld⟩ := h
  have hrun : ((c.map fun a => .ok (f a)) env s w).Leads d (c.trace d env s w) _ := .run rfl
  have houtcome' := outcome_of_leads hrun
  have hworld' := world_of_leads hrun
  rw [houtcome] at houtcome'
  rw [hworld] at hworld'
  rcases ho : (c.history d env s w).outcome with ⟨a, u, hu⟩ | ⟨a, u, hu⟩
  · rw [ho] at houtcome' hworld'
    cases houtcome'.trans (Outcome.of_eq_success hu)
    exact ⟨a, ⟨ho, hworld'.symm⟩, rfl⟩
  · rw [ho] at houtcome'
    cases houtcome'

/-- After a value, the flow that is made from it is run where the first one has ended. -/
theorem history_bind_of_success {c : Flow H α} {f : α → Flow H β} {a : α}
    (hc : (c.history d env s w).outcome = .success a t sound) :
    let first := c.history d env s w
    let rest := (f a).history d env t first.world
    let run := (c.bind fun a => .ok (f a)).history d env s w
    run.outcome = rest.outcome ∧ run.world = rest.world ∧
      run.asked = first.asked ++ rest.asked := by
  intro first rest run
  have hbehaviour : run.outward = rest.outward.after first.outward.events := by
    show (c.bind fun a => .ok (f a)).behaviour d env s w = _
    rw [behaviour_bind]
    exact History.onSuccess_of_success (h := c.behaviour d env s w) hc _
  have houtcome := congrArg History.outcome hbehaviour
  have hworld := congrArg History.world hbehaviour
  have hasked := congrArg History.asked hbehaviour
  rw [History.asked_after] at hasked
  refine ⟨houtcome, hworld, ?_⟩
  rw [← History.asked_outward run, ← History.asked_outward first, ← History.asked_outward rest]
  exact hasked

/-- After a failure nothing is run. -/
theorem history_bind_of_faulted {c : Flow H α} {f : α → Act H.World (Flow H β)} {value? : Option α}
    {unsound : t.failures ≠ []} (hc : (c.history d env s w).outcome = .faulted value? t unsound) :
    let first := c.history d env s w
    let run := (c.bind f).history d env s w
    run.outcome = .faulted none t unsound ∧ run.world = first.world ∧ run.asked = first.asked := by
  intro first run
  have hbehaviour : run.outward =
      (History.atOnce (.faulted none t unsound) first.world).after first.outward.events := by
    show (c.bind f).behaviour d env s w = _
    rw [behaviour_bind]
    have houtcome : (c.behaviour d env s w).outcome = .faulted value? t unsound := hc
    unfold History.onSuccess History.andThen
    rw [houtcome]
    rfl
  have houtcome := congrArg History.outcome hbehaviour
  have hworld := congrArg History.world hbehaviour
  have hasked := congrArg History.asked hbehaviour
  rw [History.asked_after] at hasked
  refine ⟨houtcome, hworld, ?_⟩
  rw [← History.asked_outward run, ← History.asked_outward first, hasked]
  exact List.append_nil _

theorem isFaulted_bind {c : Flow H α} (f : α → Act H.World (Flow H β))
    (h : ((c env s w).history d s).outcome.isFaulted = true) :
    (((c.bind f) env s w).history d s).outcome.isFaulted = true := by
  unfold bind
  rw [Program.history_run, History.outcome_after]
  generalize ((c env s w).history d s).outcome = o at h ⊢
  cases o with
  | success a t h' => cases h
  | faulted a t h' => rfl

end Flow

/-! ## What is in a snapshot -/

/-- Between two worlds the session is asked for the identifier of an element, and what a snapshot
says is what it answers, or nothing when it throws. -/
inductive Snapshot.Identifies (seen : H.World → Seen) (d : Driver H) (handle : H.Session)
    (element : H.Element) : String → H.World → H.World → Prop where
  | read {text : String} {w v : H.World}
      (answer : d.answer (H.call handle (.elementId element)) w = (.ok text, v)) :
      Identifies seen d handle element text w v
  | unread {e : Thrown} {w u v : H.World}
      (answer : d.answer (H.call handle (.elementId element)) w = (.error e, u))
      (unseen : seen v = seen u) : Identifies seen d handle element "" w v

/-- Between two worlds the session is asked for the properties of an element, one after the other,
and the snapshot holds what it answers. -/
inductive Snapshot.Shows (seen : H.World → Seen) (d : Driver H) (handle : H.Session)
    (element : H.Element) : Snapshot → H.World → H.World → Prop where
  | intro {x : Snapshot} {w w₁ w₂ w₃ w₄ w₅ w₆ w₇ v : H.World}
      (elementId : Identifies seen d handle element x.elementId w w₁)
      (tag : d.answer (H.call handle (.tagName element)) w₁ = (.ok x.tag, w₂))
      (text : d.answer (H.call handle (.text element)) w₂ = (.ok x.text, w₃))
      (enabled : d.answer (H.call handle (.isEnabled element)) w₃ = (.ok x.enabled, w₄))
      (selected : d.answer (H.call handle (.isSelected element)) w₄ = (.ok x.selected, w₅))
      (location : d.answer (H.call handle (.location element)) w₅ = (.ok x.location, w₆))
      (size : d.answer (H.call handle (.size element)) w₆ = (.ok x.size, w₇))
      (displayed : d.answer (H.call handle (.isDisplayed element)) w₇ = (.ok x.displayed, v)) :
      Shows seen d handle element x w v

/-- There is one snapshot of each element, in the order of the elements, and the places are counted
from `n` on. The elements are looked at one after the other between two worlds. -/
inductive Snapshot.Album (seen : H.World → Seen) (d : Driver H) (session : Option H.Session)
    (words : String) : Nat → List H.Element → List Snapshot → H.World → H.World → Prop where
  | nil (n : Nat) (w : H.World) : Album seen d session words n [] [] w w
  | cons {n : Nat} {element : H.Element} {found : List H.Element} {x : Snapshot}
      {xs : List Snapshot} {handle : H.Session} {w v u : H.World}
      (asked : session = some handle) (shows : x.Shows seen d handle element w v)
      (selector : x.selector = words) (index : x.index = n)
      (rest : Album seen d session words (n + 1) found xs v u) :
      Album seen d session words n (element :: found) (x :: xs) w u

namespace Selector

open Walkthrough.Flow

section

variable {env : H.Env} {s t : H.State} {w v : H.World} {sound : t.failures = []}

/-- A property that is filled in was read from the session, in the state as it was. -/
theorem read_of_probe (host : H.Unmarked seen) {label property : String}
    {command : Command H.Element H.Datum α} {fill : α → Snapshot → Snapshot}
    {f : Snapshot → Snapshot}
    (h : (probe label property command fill).Ends d env s w (.success f t sound) v) :
    t = s ∧ ∃ handle a, s.session = some handle ∧
      d.answer (H.call handle command) w = (.ok a, v) ∧ f = fill a := by
  obtain ⟨houtcome, hworld⟩ := h
  let words := "Failed to read " ++ property ++ " of " ++ label
  have hprobe : (probe label property command fill).behaviour d env s w =
      ((callSession words command).behaviour d env s w).map fill := behaviour_probe ..
  have hsuccess : ((callSession words command).behaviour d env s w).outcome.isFaulted = false := by
    have hsame := congrArg (Outcome.isFaulted ∘ History.outcome) hprobe
    dsimp only [Function.comp] at hsame
    rw [← Outcome.isFaulted_map fill]
    refine hsame.symm.trans ?_
    exact congrArg Outcome.isFaulted houtcome
  by_cases hasks : s.failures = [] ∧ ∃ handle, s.session = some handle
  · obtain ⟨hs, handle, hsession⟩ := hasks
    rcases hanswer : d.answer (H.call handle command) w with ⟨e | a, u⟩
    · have hfaulted := (behaviour_callSession_of_error env hs hsession host words hanswer).1
      rw [hsuccess] at hfaulted
      cases hfaulted
    · obtain ⟨hfilled, hleft, -⟩ :=
        behaviour_probe_of_ok env hs hsession label property fill hanswer
      cases houtcome.symm.trans hfilled
      refine ⟨rfl, handle, a, hsession, ?_, rfl⟩
      rw [← hworld]
      exact hanswer.trans (congrArg (Prod.mk _) hleft.symm)
  · have hfaulted : ((callSession words command).behaviour d env s w).outcome.isFaulted = true := by
      rw [behaviour_eq]
      exact isFaulted_bind _ (isFaulted_session env hasks)
    rw [hsuccess] at hfaulted
    cases hfaulted

theorem answer_of_probe (host : H.Unmarked seen) {handle : H.Session}
    (hsession : s.session = some handle) {label property : String}
    {command : Command H.Element H.Datum α} {fill : α → Snapshot → Snapshot}
    {f : Snapshot → Snapshot}
    (h : (probe label property command fill).Ends d env s w (.success f t sound) v) :
    t = s ∧ ∃ a, d.answer (H.call handle command) w = (.ok a, v) ∧ f = fill a := by
  obtain ⟨rfl, handle', a, hsession', hanswer, rfl⟩ := read_of_probe host h
  cases hsession.symm.trans hsession'
  exact ⟨rfl, a, hanswer, rfl⟩

/-- The identifier that is filled in was read from the session of the state, or is empty because it
could not be read. Without a session it is empty as well, and the probe after it fails. -/
theorem identifies_of_identifierProbe (host : H.Unmarked seen) (hs : s.failures = [])
    {label : String} {element : H.Element} {f : Snapshot → Snapshot}
    (h : (identifierProbe label element).Ends d env s w (.success f t sound) v) :
    t = s ∧ ∀ handle, s.session = some handle → ∃ text,
      Snapshot.Identifies seen d handle element text w v ∧
        f = fun x => { x with elementId := text } := by
  obtain ⟨houtcome, hworld⟩ := h
  cases hsession : s.session with
  | none =>
    have hasks : ¬(s.failures = [] ∧ ∃ handle, s.session = some handle) := by
      rintro ⟨-, handle, hsome⟩
      rw [hsession] at hsome
      cases hsome
    have hfaulted : ((probe label "element id" (.elementId element) fun a x =>
        { x with elementId := a }).behaviour d env s w).outcome.isFaulted = true := by
      rw [behaviour_probe, behaviour_eq]
      exact (Outcome.isFaulted_map ..).trans (isFaulted_bind _ (isFaulted_session env hasks))
    have hempty := (behaviour_orElse_pure_of_failure hs hfaulted fun x : Snapshot =>
      { x with elementId := "" }).1
    cases houtcome.symm.trans hempty
    exact ⟨rfl, fun handle hsome => nomatch hsome⟩
  | some handle =>
    rcases hanswer : d.answer (H.call handle (.elementId element)) w with ⟨e | text, u⟩
    · obtain ⟨hempty, hleft, -⟩ :=
        behaviour_identifierProbe_of_error env hs hsession host label hanswer
      cases houtcome.symm.trans hempty
      refine ⟨rfl, fun handle' hsome => ⟨"", ?_, rfl⟩⟩
      cases hsome
      exact .unread hanswer ((congrArg seen hworld).symm.trans hleft)
    · obtain ⟨hfilled, hleft, -⟩ := behaviour_identifierProbe_of_ok env hs hsession label hanswer
      cases houtcome.symm.trans hfilled
      refine ⟨rfl, fun handle' hsome => ⟨text, ?_, rfl⟩⟩
      cases hsome
      cases hworld.symm.trans hleft
      exact .read hanswer

/-- A snapshot of an element shows it, in the words of the selector and with its index. -/
theorem shows_of_snapshotElement (host : H.Unmarked seen) (hs : s.failures = []) {a : Selector H}
    {element : H.Element} {index : Int} {x : Snapshot}
    (h : (a.snapshotElement element index).Ends d env s w (.success x t sound) v) :
    t = s ∧ ∃ handle, s.session = some handle ∧ x.Shows seen d handle element w v ∧
      x.selector = a.describe ∧ x.index = index := by
  obtain ⟨fills, hfills, rfl⟩ := success_of_map_ok h
  obtain - | ⟨hidentifier, - | ⟨htag, - | ⟨htext, - | ⟨henabled, - | ⟨hselected, - |
    ⟨hlocation, - | ⟨hsize, - | ⟨hdisplayed, hnone⟩⟩⟩⟩⟩⟩⟩⟩ := givesAll_of_sequence hs hfills
  cases hnone
  obtain ⟨rfl, hidentifies⟩ := identifies_of_identifierProbe host hs hidentifier
  obtain ⟨rfl, handle, tag, hsession, readTag, rfl⟩ := read_of_probe host htag
  obtain ⟨id, hid, rfl⟩ := hidentifies handle hsession
  obtain ⟨rfl, text, readText, rfl⟩ := answer_of_probe host hsession htext
  obtain ⟨rfl, enabled, readEnabled, rfl⟩ := answer_of_probe host hsession henabled
  obtain ⟨rfl, selected, readSelected, rfl⟩ := answer_of_probe host hsession hselected
  obtain ⟨rfl, location, readLocation, rfl⟩ := answer_of_probe host hsession hlocation
  obtain ⟨rfl, size, readSize, rfl⟩ := answer_of_probe host hsession hsize
  obtain ⟨rfl, displayed, readDisplayed, rfl⟩ := answer_of_probe host hsession hdisplayed
  exact ⟨rfl, handle, hsession,
    .intro hid readTag readText readEnabled readSelected readLocation readSize readDisplayed,
    rfl, rfl⟩

/-- By induction on the elements, the place of the first of which is `n`. -/
theorem album_of_givesAll (host : H.Unmarked seen) (hs : s.failures = []) {a : Selector H}
    {found : List H.Element} {n : Nat} {xs : List Snapshot}
    (h : GivesAll d env ((found.zipIdx n).map fun (element, index) =>
      a.snapshotElement element (index : Nat)) s w xs t v) :
    t = s ∧ Snapshot.Album seen d s.session a.describe n found xs w v := by
  induction found generalizing n w xs with
  | nil =>
    cases h
    exact ⟨rfl, .nil n _⟩
  | cons element found ih =>
    obtain - | ⟨hfirst, hrest⟩ := h
    obtain ⟨rfl, handle, hsession, hshows, hselector, hindex⟩ :=
      shows_of_snapshotElement host hs hfirst
    obtain ⟨rfl, halbum⟩ := ih hrest
    exact ⟨rfl, .cons hsession hshows hselector hindex halbum⟩

theorem album_of_snapshotEach (host : H.Unmarked seen) (hs : s.failures = []) {a : Selector H}
    {found : List H.Element} {xs : List Snapshot}
    (h : (a.snapshotEach found).Ends d env s w (.success xs t sound) v) :
    t = s ∧ Snapshot.Album seen d s.session a.describe 0 found xs w v :=
  album_of_givesAll host hs (givesAll_of_sequence hs h)

end

/-! ## The search and the snapshots -/

/-- The snapshots of the elements that were found match those under the sessions that name them. -/
theorem rest_matches (host : H.Unmarked seen) (lenient : d.Lenient seen) (unread : H.Element → Bool)
    (a : Selector H) (found : List H.Element) (env : H.Env) (t : H.State) (v : H.World) :
    ((a.snapshotEach found).history d env t v).Matches seen
      (((a.recast (H.naming unread)).snapshotEach found).history (d.recast (H.naming unread)) env t
        v) := by
  rw [Flow.history_eq, Flow.history_eq]
  exact matches_snapshotEach host lenient a found env t v v rfl

/-- A search that asks for none of the identifiers is the same under the sessions that name them. -/
theorem search_mirrors (unread : H.Element → Bool) (a : Selector H) (env : H.Env) (s : H.State)
    (w : H.World)
    (hunasked : ∀ handle element, unread element = true →
      .asked handle (.elementId element) ∉ (a.findAll.history d env s w).asked) :
    let search := a.findAll.history d env s w
    let search' := (a.recast (H.naming unread)).findAll.history (d.recast (H.naming unread)) env s w
    search'.outcome = search.outcome.recast (H.naming unread) ∧ search'.world = search.world ∧
      search'.asked = search.asked := by
  intro search search'
  have hagrees : (H.naming unread).AgreesOn search.sightings :=
    Host.agreesOn_naming fun handle element helement hasked =>
      hunasked handle element helement (List.mem_filter.mpr ⟨hasked, rfl⟩)
  obtain ⟨houtcome, hworld, hsightings⟩ := Flow.mirrors_recast d a.findAll env s w hagrees
  have hsearch' : search' = _ := Flow.history_eq ..
  have hsearch : search = _ := Flow.history_eq ..
  rw [findAll_recast] at hsearch'
  rw [hsearch, hsearch']
  exact ⟨houtcome, hworld, congrArg (List.filter Sighting.isAsked) hsightings⟩

/-- After a search that succeeds, the snapshots of what was found are the rest. -/
theorem snapshot_of_found {a : Selector H} {env : H.Env} {s t : H.State} {w : H.World}
    {found : List H.Element} {sound : t.failures = []}
    (hsearch : (a.findAll.history d env s w).outcome = .success found t sound) :
    let search := a.findAll.history d env s w
    let rest := (a.snapshotEach found).history d env t search.world
    let run := a.snapshot.history d env s w
    run.outcome = rest.outcome ∧ run.world = rest.world ∧ run.asked = search.asked ++ rest.asked :=
  history_bind_of_success hsearch

/-- A search that fails is the end. -/
theorem snapshot_of_unfound {a : Selector H} {env : H.Env} {s t : H.State} {w : H.World}
    {value? : Option (List H.Element)} {unsound : t.failures ≠ []}
    (hsearch : (a.findAll.history d env s w).outcome = .faulted value? t unsound) :
    let search := a.findAll.history d env s w
    let run := a.snapshot.history d env s w
    run.outcome = .faulted none t unsound ∧ run.world = search.world ∧ run.asked = search.asked :=
  history_bind_of_faulted hsearch

/-- When the search asks for none of the identifiers, all of a snapshot matches. -/
theorem snapshot_matches (host : H.Unmarked seen) (lenient : d.Lenient seen)
    (unread : H.Element → Bool) (a : Selector H) (env : H.Env) (s : H.State) (w : H.World)
    (hunasked : ∀ handle element, unread element = true →
      .asked handle (.elementId element) ∉ (a.findAll.history d env s w).asked) :
    (a.snapshot.history d env s w).Matches seen
      ((a.recast (H.naming unread)).snapshot.history (d.recast (H.naming unread)) env s w) := by
  obtain ⟨hmirrored, hsameWorld, hsameAsked⟩ := search_mirrors unread a env s w hunasked
  rcases hsearch : (a.findAll.history d env s w).outcome with
    ⟨found, t, sound⟩ | ⟨value?, t, unsound⟩
  · rw [hsearch] at hmirrored
    obtain ⟨houtcome, hworld, hasked⟩ := snapshot_of_found hsearch
    obtain ⟨houtcome', hworld', hasked'⟩ := snapshot_of_found
      (H := H.answeringWith (H.naming unread)) hmirrored
    obtain ⟨hrest, hrestWorld, hrestAsked⟩ :=
      rest_matches (d := d) host lenient unread a found env t (a.findAll.history d env s w).world
    rw [hsameWorld] at houtcome' hworld' hasked'
    rw [hsameAsked] at hasked'
    refine ⟨?_, ?_, ?_⟩
    · rw [houtcome]
      exact houtcome'.trans hrest
    · rw [hworld, hrestWorld]
      exact congrArg seen hworld'.symm
    · rw [hasked, ← hrestAsked]
      exact hasked'
  · rw [hsearch] at hmirrored
    obtain ⟨houtcome, hworld, hasked⟩ := snapshot_of_unfound hsearch
    obtain ⟨houtcome', hworld', hasked'⟩ := snapshot_of_unfound
      (H := H.answeringWith (H.naming unread)) hmirrored
    rw [hsameWorld] at hworld'
    rw [hsameAsked] at hasked'
    refine ⟨?_, ?_, ?_⟩
    · rw [houtcome]
      exact houtcome'
    · rw [hworld]
      exact congrArg seen hworld'.symm
    · rw [hasked]
      exact hasked'

/-- A snapshot that succeeds has found elements, and shows each one in its place. -/
theorem album_of_snapshot (host : H.Unmarked seen) {a : Selector H} {env : H.Env} {s t : H.State}
    {w : H.World} {xs : List Snapshot} {sound : t.failures = []}
    (hrun : (a.snapshot.history d env s w).outcome = .success xs t sound) :
    ∃ found, (a.findAll.history d env s w).outcome = .success found t sound ∧
      Snapshot.Album seen d t.session a.describe 0 found xs (a.findAll.history d env s w).world
        (a.snapshot.history d env s w).world := by
  rcases hsearch : (a.findAll.history d env s w).outcome with ⟨found, u, hu⟩ | ⟨value?, u, hu⟩
  · obtain ⟨houtcome, hworld, -⟩ := snapshot_of_found hsearch
    rw [hrun] at houtcome
    obtain ⟨rfl, halbum⟩ := album_of_snapshotEach host hu ⟨houtcome.symm, hworld.symm⟩
    exact ⟨found, rfl, halbum⟩
  · rw [(snapshot_of_unfound hsearch).1] at hrun
    cases hrun

/-- Identifiers that cannot be read do not affect the snapshots that are made. Let some elements be
given, and let other sessions give their identifiers as empty texts where those of the host throw.

After the search, the snapshots of whatever was found end in the same state, with the same
snapshots or the same failures, as those under the other sessions, and the same is asked in the same
order. A search that fails is the end. When the search itself asks for none of these identifiers,
all this is the snapshot under the other sessions. And when a snapshot succeeds, the state is the
one that the search has left, and there is one snapshot of each element in its place. -/
theorem snapshot_unread (host : H.Unmarked seen) (lenient : d.Lenient seen)
    (unread : H.Element → Bool) (a : Selector H) (env : H.Env) (s : H.State) (w : H.World) :
    let other := d.recast (H.naming unread)
    let named := a.recast (H.naming unread)
    let search := a.findAll.history d env s w
    let run := a.snapshot.history d env s w
    (∀ found t sound, search.outcome = .success found t sound →
      let rest := (a.snapshotEach found).history d env t search.world
      run.outcome = rest.outcome ∧ run.world = rest.world ∧
        run.asked = search.asked ++ rest.asked ∧
        rest.Matches seen ((named.snapshotEach found).history other env t search.world)) ∧
    (∀ value? t unsound, search.outcome = .faulted value? t unsound →
      run.outcome = .faulted none t unsound ∧ run.world = search.world ∧
        run.asked = search.asked) ∧
    ((∀ handle element, unread element = true →
        .asked handle (.elementId element) ∉ search.asked) →
      run.Matches seen (named.snapshot.history other env s w)) ∧
    ∀ xs t sound, run.outcome = .success xs t sound →
      ∃ found, search.outcome = .success found t sound ∧
        Snapshot.Album seen d t.session a.describe 0 found xs search.world run.world := by
  intro other named search run
  refine ⟨fun found t sound hsearch => ?_, fun value? t unsound => snapshot_of_unfound,
    snapshot_matches host lenient unread a env s w, fun xs t sound => album_of_snapshot host⟩
  obtain ⟨houtcome, hworld, hasked⟩ := snapshot_of_found hsearch
  exact ⟨houtcome, hworld, hasked, rest_matches host lenient unread a found env t _⟩

/-- What the sessions of `nameless` answer: there are two elements, and the first one has no
identifier that can be read. -/
def namelessAnswer (tag : Except Thrown String) : {β : Type} → Command Bool Unit β → Except Thrown β
  | _, .findElements _ _ => .ok [false, true]
  | _, .elementId element =>
    if element then .ok "menu" else .error (.fault ⟨"SessionError", "stale"⟩)
  | _, .tagName _ => tag
  | _, .text element => .ok (if element then "two" else "one")
  | _, .isEnabled _ => .ok true
  | _, .isSelected _ => .ok false
  | _, .location _ => .ok {}
  | _, .size _ => .ok {}
  | _, .isDisplayed _ => .ok true
  | _, _ => .error (.fault ⟨"SessionError", "refused"⟩)

/-- A host with two elements, whose world counts the lines that the logging action has been handed.
The logging action throws on some of them. -/
abbrev nameless (tag : Except Thrown String) (breaks : Nat → Bool) : Host :=
  { Host.refusing with
    Element := Bool
    call := fun _ command w => ((namelessAnswer tag command).map Reply.value, w)
    logLine := fun _ _ _ w => (if breaks w then .error .sinkBroke else .ok (), w + 1)
    ofElement := fun _ => () }

/-- The state that a run under `nameless` starts from. -/
abbrev namelessStart (tag : Except Thrown String) (breaks : Nat → Bool) :
    (nameless tag breaks).State :=
  (nameless tag breaks).initialState (some ()) { sinks := () }

/-- Nothing depends on the number of lines when the logging action never throws. -/
theorem unmarked_nameless (tag : Except Thrown String) :
    (nameless tag fun _ => false).Unmarked fun _ => () where
  logLine _ _ _ := ⟨fun _ _ _ => .gave rfl rfl, fun _ => rfl⟩
  publish _ _ := ⟨fun _ _ _ => .gave rfl rfl, fun _ => rfl⟩
  call handle command := by
    intro w w' hw
    show Coincide _ _ ((namelessAnswer tag command).map Reply.value, w)
      ((namelessAnswer tag command).map Reply.value, w')
    cases namelessAnswer tag command with
    | error e => exact .threw e hw
    | ok a => exact .gave (.value a) hw

/-- The first of two elements cannot be asked for its identifier, which the logging action is told.
The snapshots are those that are made when the element answers with an empty one. -/
theorem snapshot_unread_nameless :
    let H := nameless (.ok "li") fun _ => false
    let start := namelessStart (.ok "li") fun _ => false
    let a : Selector H := css "li"
    let run := a.snapshot.history .blocking () start (0 : Nat)
    let named := a.recast (H.naming fun _ => true)
    H.Unmarked (fun _ => ()) ∧ (Driver.blocking : Driver H).Lenient (fun _ => ()) ∧
      run.asked.length = 17 ∧ run.world = (1 : Nat) ∧
      run.Matches (fun _ => ()) (named.snapshot.history .blocking () start (0 : Nat)) ∧
      ∃ xs, run.outcome = .success xs start rfl ∧
        xs.map (fun x => (x.index, x.elementId, x.text)) = [(0, "", "one"), (1, "menu", "two")] ∧
        Snapshot.Album (fun _ => ()) .blocking start.session a.describe 0 [false, true] xs
          (0 : Nat) run.world := by
  intro H start a run named
  have host : H.Unmarked fun _ => () := unmarked_nameless _
  have lenient : (Driver.blocking : Driver H).Lenient fun _ => () := Driver.lenient_blocking
  let search := a.findAll.history .blocking () start (0 : Nat)
  have hsearch : search.outcome = .success [false, true] start rfl ∧ search.world = (0 : Nat) ∧
      search.asked = [.asked () (.findElements ⟨.css, "li"⟩ none)] := by
    unfold search
    rw [Flow.history_eq]
    exact ⟨rfl, rfl, rfl⟩
  have hrun : run.outcome.isFaulted = false ∧ (run.world : Nat) = 1 ∧ run.asked.length = 17 ∧
      run.outcome.value?.map (·.map fun x => (x.index, x.elementId, x.text)) =
        some [(0, "", "one"), (1, "menu", "two")] := by
    unfold run
    rw [Flow.history_eq]
    decide +kernel
  obtain ⟨hclean, hworld, hasked, hvalue⟩ := hrun
  obtain ⟨-, -, hmatches, halbum⟩ :=
    snapshot_unread host lenient (fun _ => true) a () start (0 : Nat)
  refine ⟨host, lenient, hasked, hworld, hmatches fun handle element _ => ?_, ?_⟩
  · rw [hsearch.2.2, List.mem_singleton]
    intro hsame
    have hnaming : true = false := congrArg Sighting.isNaming hsame
    cases hnaming
  · rcases hrun : run.outcome with ⟨xs, t, sound⟩ | ⟨value?, t, unsound⟩
    · obtain ⟨found, hfound, halbum⟩ := halbum xs t sound hrun
      rw [hrun] at hvalue
      cases hsearch.1.symm.trans hfound
      have halbum : Snapshot.Album (fun _ => ()) .blocking start.session a.describe 0
          [false, true] xs search.world run.world := halbum
      rw [hsearch.2.1] at halbum
      exact ⟨xs, rfl, Option.some.inj hvalue, halbum⟩
    · rw [hrun] at hclean
      cases hclean

/-- What a selector makes of an identifier that cannot be read is its own affair. The condition of
this one asks for the identifiers of all elements, so that the search fails, and it succeeds when
they are empty. And a logging action that throws on its second line is told of the identifier first,
so that the failure of the next probe is lost; when the identifier is empty it is told of that
alone. -/
theorem snapshot_unread_filtered :
    let H := nameless (.ok "li") fun _ => false
    let start := namelessStart (.ok "li") fun _ => false
    let a : Selector H := (css "li").filterBy (.custom fun found => .ok
      ((Flow.forEach found fun element =>
        Flow.callSession "Failed to read a name" (.elementId element)).map fun _ => .ok ()))
      "when all have a name"
    let refused : Thrown := .fault ⟨"SessionError", "refused"⟩
    let H' := nameless (.error refused) fun told => told == 1
    let start' := namelessStart (.error refused) fun told => told == 1
    let b : Selector H' := css "li"
    (a.snapshot.history .blocking () start (0 : Nat)).outcome.isFaulted = true ∧
      ((a.recast (H.naming fun _ => true)).snapshot.history .blocking () start
        (0 : Nat)).outcome.isFaulted = false ∧
      (b.snapshot.history .blocking () start' (0 : Nat)).outcome.state.failures.map Failure.text =
        [Failure.sinkBroke.text] ∧
      ((b.recast (H'.naming fun _ => true)).snapshot.history .blocking () start'
        (0 : Nat)).outcome.state.failures.map Failure.text =
          ["Failed to read tag name of css \"li\": refused"] := by
  intro H start a refused H' start' b
  refine ⟨?_, ?_, ?_, ?_⟩ <;> rw [Flow.history_eq] <;> decide +kernel

end Selector

end Walkthrough
