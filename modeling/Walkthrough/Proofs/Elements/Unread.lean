import Mathlib.Data.List.Forall2
import Walkthrough.Proofs.Behaviour.Alternation
import Walkthrough.Proofs.Faults.Sinks
import Walkthrough.Proofs.Muting.Basic
import Walkthrough.Proofs.Selection.Levels
import Walkthrough.Proofs.Twin.Recast

/-!
# Identifiers that cannot be read

A snapshot asks for the identifier of an element first, and goes on without one when that fails. The
failed probe has written an error line and faulted the state by then, and both are undone: the
alternative starts again from the state before.

So the snapshots of some elements are compared with those that are made when other sessions are
behind the handles, which give the empty identifier where a session throws (`Host.naming`). The two
runs end alike, in worlds that look the same, and ask the same of the sessions
(`Selector.matches_snapshotEach`). They differ in what the sinks hear of the lines that are undone,
so the sessions must not notice what the sinks do (`Host.Unmarked`).

`Program.Matches` relates the programs of the two runs, with one rule for each kind of request that
a snapshot makes. It goes by place, and not by step: the probes for identifiers match only where
they are tried with an alternative.
-/

namespace Walkthrough

universe u

variable {World Seen : Type}

/-! ## Sessions that name every element -/

/-- Gives the empty text where the code throws. -/
def Act.orEmpty (code : Act World String) : Act World String := fun w =>
  match code w with
  | (.ok text, v) => (.ok text, v)
  | (.error _, v) => (.ok "", v)

/-- Replies with the empty text where the call throws, at once or when it is awaited. -/
def Act.replyOrEmpty (call : Act World (Reply World String)) : Act World (Reply World String) :=
  fun w =>
    match call w with
    | (.ok (.value text), v) => (.ok (.value text), v)
    | (.ok (.awaitable later), v) => (.ok (.awaitable later.orEmpty), v)
    | (.error _, v) => (.ok (.value ""), v)

/-- The sessions that give an empty identifier for each of these elements where those of the host
throw. -/
def Host.naming (H : Host) (unread : H.Element → Bool) : H.Caller := fun _ handle command =>
  match command with
  | .elementId element =>
    if unread element then (H.call handle (.elementId element)).replyOrEmpty
    else H.call handle (.elementId element)
  | command => H.call handle command

variable {H : Host} {α β : Type} {unread : H.Element → Bool}

/-- An element whose identifier cannot be read is asked for it all the same, and has an empty
one. -/
theorem Host.naming_of_unread (handle : H.Session) {element : H.Element}
    (h : unread element = true) :
    H.naming unread String handle (.elementId element) =
      (H.call handle (.elementId element)).replyOrEmpty := if_pos h

/-- Any other element is asked as before. -/
theorem Host.naming_of_read (handle : H.Session) {element : H.Element}
    (h : unread element = false) :
    H.naming unread String handle (.elementId element) = H.call handle (.elementId element) :=
  if_neg (by simp [h])

/-- They answer everything else as the sessions of the host do. -/
theorem Host.agreesOn_naming {sightings : List H.Sighting}
    (h : ∀ handle element, unread element = true →
      .asked handle (.elementId element) ∉ sightings) :
    (H.naming unread).AgreesOn sightings := by
  intro β handle command hasked
  cases command
  case elementId element =>
    cases hunread : unread element with
    | true => exact absurd hasked (h handle element hunread)
    | false => exact naming_of_read handle hunread
  all_goals rfl

/-! ## What is noticed of the sinks -/

/-- What the code does is not seen of a world, and does not depend on what is not seen of it. -/
structure Act.Unseen {α : Type u} (seen : World → Seen) (code : Act World α) : Prop where
  blind : code.Blind seen
  seen_eq : ∀ w, seen (code w).2 = seen w

/-- The sessions do not notice what the sinks do, and neither does it depend on what the sinks did
before whether they throw. -/
structure Host.Unmarked (H : Host) (seen : H.World → Seen) : Prop where
  logLine : ∀ sinks message indent, (H.logLine sinks message indent).Unseen seen
  publish : ∀ sinks record, (H.publish sinks record).Unseen seen
  call : ∀ {β : Type} (handle : H.Session) (command : Command H.Element H.Datum β),
    (H.call handle command).BlindReply seen

/-- Something that is awaited does not notice what is not seen of a world. An identifier that is
awaited and would throw may be awaited as an empty one, or be refused as it is. -/
structure Driver.Lenient (seen : H.World → Seen) (d : Driver H) : Prop where
  await : ∀ {β : Type} {code code' : Act H.World β}, code.Coincides seen Eq code' →
    Act.Coincides seen Eq (d.await code) (d.await code')
  orEmpty : ∀ (code : Act H.World String) w, d.await code.orEmpty w = d.await code w ∨
    ∃ e v, d.await code w = (.error e, v) ∧ d.await code.orEmpty w = (.ok "", v)

variable {seen : H.World → Seen}

/-- The driver that blocks refuses what would have to be awaited, before and after. -/
theorem Driver.lenient_blocking : (blocking : Driver H).Lenient seen where
  await _ _ _ hw := .threw _ hw
  orEmpty _ _ := .inl rfl

/-- The driver that suspends awaits it, and may find that it throws. -/
theorem Driver.lenient_suspending : (suspending : Driver H).Lenient seen where
  await h := h
  orEmpty code w := by
    show code.orEmpty w = code w ∨ ∃ e v, code w = (.error e, v) ∧ code.orEmpty w = (.ok "", v)
    unfold Act.orEmpty
    rcases code w with ⟨e | text, v⟩
    · exact .inr ⟨e, v, rfl, rfl⟩
    · exact .inl rfl

variable {d : Driver H}

/-- The answer to a call does not depend on what is not seen of a world. -/
theorem Driver.Lenient.settle (lenient : d.Lenient seen)
    {x x' : Except Thrown (Reply H.World β) × H.World}
    (h : Coincide seen (Reply.Coincides seen) x x') :
    Coincide seen Eq (d.settle x.1 x.2) (d.settle x'.1 x'.2) := by
  cases h with
  | threw e hw => exact .threw e hw
  | gave h hw =>
    cases h with
    | value b => exact .gave rfl hw
    | awaitable hcode => exact lenient.await hcode _ _ hw

/-- What becomes of a call under sessions that reply with the empty text: the same, or the text in
place of something thrown. -/
theorem Driver.Lenient.answer_replyOrEmpty (lenient : d.Lenient seen)
    {call : Act H.World (Reply H.World String)} (hcall : call.BlindReply seen) {w w' : H.World}
    (hw : seen w = seen w') :
    Coincide seen Eq (d.answer call w) (d.answer call.replyOrEmpty w') ∨
      ∃ e v v', d.answer call w = (.error e, v) ∧
        d.answer call.replyOrEmpty w' = (.ok "", v') ∧ seen v = seen v' := by
  have hreply := hcall w w' hw
  unfold answer Act.replyOrEmpty
  generalize call w = x at hreply ⊢
  generalize call w' = x' at hreply ⊢
  cases hreply with
  | @threw e v v' hv => exact .inr ⟨e, v, v', rfl, rfl, hv⟩
  | @gave _ _ h v v' hv =>
    cases h with
    | value text => exact .inl (.gave rfl hv)
    | @awaitable later later' hlater =>
      have hawait := lenient.await hlater v v' hv
      show Coincide seen Eq (d.await later v) (d.await later'.orEmpty v') ∨
        ∃ e u u', d.await later v = (.error e, u) ∧
          d.await later'.orEmpty v' = (.ok "", u') ∧ seen u = seen u'
      obtain hsame | ⟨e, u', hthrew, hempty⟩ := lenient.orEmpty later' v'
      · rw [hsame]
        exact .inl hawait
      · rw [hthrew] at hawait
        refine .inr ⟨e, (d.await later v).2, u', ?_, hempty, hawait.seen_eq⟩
        exact Prod.ext hawait.fst_eq rfl

/-- What becomes of asking for an identifier: the same, or an empty one in place of something
thrown. -/
theorem Driver.Lenient.answer_naming (lenient : d.Lenient seen) (host : H.Unmarked seen)
    (unread : H.Element → Bool) (handle : H.Session) (element : H.Element) {w w' : H.World}
    (hw : seen w = seen w') :
    Coincide seen Eq (d.answer (H.call handle (.elementId element)) w)
        ((d.recast (H.naming unread)).answer
          (H.naming unread String handle (.elementId element)) w') ∨
      ∃ e v v', d.answer (H.call handle (.elementId element)) w = (.error e, v) ∧
        (d.recast (H.naming unread)).answer
          (H.naming unread String handle (.elementId element)) w' = (.ok "", v') ∧
        seen v = seen v' := by
  simp only [Driver.answer_recast]
  cases hunread : unread element with
  | false =>
    rw [Host.naming_of_read handle hunread]
    exact .inl (lenient.settle (host.call handle _ w w' hw))
  | true =>
    rw [Host.naming_of_unread handle hunread]
    exact lenient.answer_replyOrEmpty (host.call handle _) hw

/-! ## What is asked in a run -/

/-- A session has been asked to do something. -/
def Sighting.isAsked {Session Element Datum Sinks : Type} :
    Sighting Session Element Datum Sinks → Bool
  | asked .. => true
  | _ => false

/-- A session has been asked for the identifier of an element. -/
def Sighting.isNaming {Session Element Datum Sinks : Type} :
    Sighting Session Element Datum Sinks → Bool
  | asked _ (.elementId _) => true
  | _ => false

/-- What the sessions are asked in a run, in order. -/
def History.asked (h : History H α) : List H.Sighting := h.sightings.filter Sighting.isAsked

/-- What the sessions are asked in some events. -/
def Event.allAsked (es : List (Event H)) : List H.Sighting :=
  (es.flatMap Event.sightings).filter Sighting.isAsked

/-- Earlier questions come first. -/
theorem History.asked_after (h : History H α) (es : List (Event H)) :
    (h.after es).asked = Event.allAsked es ++ h.asked := by
  simp [History.asked, Event.allAsked]

/-- A step asks first, and then the step that it is a part of. -/
theorem Program.asked_run (d : Driver H) (c : Flow H β) (env : H.Env) (s : H.State) (w : H.World)
    (next : Outcome H β → H.World → Program H α) (start : H.State) :
    ((run c env s w next).history d start).asked =
      ((c env s w).history d s).asked ++
        ((next ((c env s w).history d s).outcome ((c env s w).history d s).world).history d
          start).asked := by
  rw [history_run, History.asked_after]
  simp [Event.allAsked, History.asked, History.sightings, Event.sightings]

/-- A call asks one thing, whatever is awaited of it. -/
theorem Program.asked_call (d : Driver H) (handle : H.Session)
    (command : Command H.Element H.Datum β) (w : H.World)
    (next : Except Thrown β → H.World → Program H α) (start : H.State) :
    ((outside (.call handle command) w next).history d start).asked =
      .asked handle command ::
        ((next (d.answer (H.call handle command) w).1
          (d.answer (H.call handle command) w).2).history d start).asked := by
  have hsightings :=
    (answer_outside d (e := .call handle command) (fun _ => rfl) w next start).2.2
  unfold History.asked
  rw [hsightings]
  rfl

/-! ## Steps that only write -/

/-- The program asks nothing of the sessions, and leaves a world that looks like `w`. -/
structure Program.Apart (seen : H.World → Seen) (d : Driver H) (w : H.World) (start : H.State)
    (p : Program H α) : Prop where
  world : seen (p.history d start).world = seen w
  asked : (p.history d start).asked = []

namespace Program.Apart

variable {start s : H.State} {w v : H.World}

/-- An end asks nothing. -/
theorem finish (o : Outcome H α) (hv : seen v = seen w) :
    (Program.finish o v).Apart seen d w start := ⟨hv, rfl⟩

/-- Nor does throwing. -/
theorem raise (e : Thrown) (hv : seen v = seen w) :
    (Program.raise e v : Program H α).Apart seen d w start := ⟨hv, rfl⟩

/-- A step that only writes, and then what only writes. -/
theorem run {c : Flow H β} {env : H.Env} {next : Outcome H β → H.World → Program H α}
    (hc : (c env s v).Apart seen d w s)
    (hnext : ∀ o u, seen u = seen w → (next o u).Apart seen d w start) :
    (Program.run c env s v next).Apart seen d w start := by
  have hrest := hnext ((c env s v).history d s).outcome _ hc.world
  refine ⟨hrest.world, ?_⟩
  rw [asked_run, hc.asked, hrest.asked]
  rfl

/-- Announcing a line asks no session. -/
theorem announce (host : H.Unmarked seen) {node : Log} (hv : seen v = seen w)
    {next : H.World → Program H α} (hnext : ∀ u, seen u = seen w → (next u).Apart seen d w start) :
    (Flow.announce s node v next).Apart seen d w start := by
  -- what a sink is handed is no question to a session
  have hsink (e : Effect H Unit) (he : ∀ r, (e.sightings r).filter Sighting.isAsked = [])
      (next : Except Thrown Unit → H.World → Program H α) (u : H.World)
      (hrest : (next (H.perform e u).1 (H.perform e u).2).Apart seen d w start) :
      (Program.effect e u next).Apart seen d w start := by
    refine ⟨hrest.world, ?_⟩
    have hasked := History.asked_after
      ((next (H.perform e u).1 (H.perform e u).2).history d start) [.did e (H.perform e u).1]
    rw [hrest.asked] at hasked
    refine hasked.trans ?_
    simp only [Event.allAsked, List.flatMap_cons, List.flatMap_nil, List.append_nil,
      Event.sightings, he]
  unfold Flow.announce
  split
  · exact hnext v hv
  · refine hsink _ (fun _ => rfl) _ v ?_
    have hline := ((host.logLine s.settings.sinks node.message node.indent).seen_eq v).trans hv
    dsimp only [Host.perform]
    generalize H.logLine s.settings.sinks node.message node.indent v = x at hline ⊢
    obtain ⟨e | _, u⟩ := x
    · exact raise e hline
    · refine hsink _ (fun _ => rfl) _ u ?_
      have hrecord := ((host.publish s.settings.sinks node.record).seen_eq u).trans hline
      dsimp only [Host.perform]
      generalize H.publish s.settings.sinks node.record u = x at hrecord ⊢
      obtain ⟨e | _, u'⟩ := x
      · exact raise e hrecord
      · exact hnext u' hrecord

/-- Failing writes a line and does nothing else. -/
theorem fail (host : H.Unmarked seen) (f : Failure) (env : H.Env) (hv : seen v = seen w) :
    ((Flow.fail f : Flow H α) env s v).Apart seen d w s := by
  refine run (announce host hv fun u hu => finish _ hu) fun o u hu => ?_
  cases o with
  | faulted a t h => exact finish _ hu
  | success a t h => exact run (finish _ hu) fun o u' hu' => finish o hu'

end Program.Apart

/-! ## Programs that match -/

variable {calls : H.Caller}

/-- The runs end alike in worlds that look the same, and ask the same of the sessions. -/
structure History.Matches (seen : H.World → Seen) (h : History H α)
    (h' : History (H.answeringWith calls) α) : Prop where
  outcome : h'.outcome = h.outcome.recast calls
  world : seen h.world = seen h'.world
  asked : h'.asked = h.asked

/-- The runs of the programs match, one under each host. -/
abbrev Program.Matches (seen : H.World → Seen) (d : Driver H) (start : H.State)
    (p : Program H α) (p' : Program (H.answeringWith calls) α) : Prop :=
  (p.history d start).Matches seen (p'.history (d.recast calls) start)

/-- From every state, in worlds that look the same, the programs of the flows match. -/
def Flow.Matches (seen : H.World → Seen) (d : Driver H) (c : Flow H α)
    (c' : Flow (H.answeringWith calls) α) : Prop :=
  ∀ env s w w', seen w = seen w' → (c env s w).Matches seen d s (c' env s w')

namespace Program.Matches

variable {start s : H.State} {w w' : H.World}

/-- Ends match when their outcomes and what is seen of their worlds do. -/
theorem finish {o : Outcome H α} {o' : Outcome (H.answeringWith calls) α} (h : o' = o.recast calls)
    (hw : seen w = seen w') :
    (Program.finish o w).Matches seen d start (.finish o' w') := ⟨h, hw, rfl⟩

/-- The same value in the same state. -/
theorem value (a : α) (t : H.State) (hw : seen w = seen w') :
    (Program.finish (.of a t) w).Matches seen d start
      (.finish (.of a t) w' : Program (H.answeringWith calls) α) :=
  finish (Outcome.recast_of a t).symm hw

/-- Throwing the same matches. -/
theorem raise (e : Thrown) (hw : seen w = seen w') :
    (Program.raise e w : Program H α).Matches seen d start
      (.raise e w' : Program (H.answeringWith calls) α) :=
  ⟨rfl, hw, rfl⟩

/-- The outer programs go on from where the nested steps have ended. -/
theorem run {c : Flow H β} {c' : Flow (H.answeringWith calls) β} {env : H.Env}
    {next : Outcome H β → H.World → Program H α}
    {next' : Outcome (H.answeringWith calls) β → H.World → Program (H.answeringWith calls) α}
    (hc : (c env s w).Matches seen d s (c' env s w'))
    (hnext : (next ((c env s w).history d s).outcome ((c env s w).history d s).world).Matches seen
      d start (next' (((c env s w).history d s).outcome.recast calls)
        ((c' env s w').history (d.recast calls) s).world)) :
    (Program.run c env s w next).Matches seen d start (.run c' env s w' next') := by
  rw [← hc.outcome] at hnext
  refine ⟨hnext.outcome, hnext.world, ?_⟩
  rw [asked_run, asked_run, hc.asked, hnext.asked]

/-- Whatever the nested steps end with, the outer programs match after it. -/
theorem step {c : Flow H β} {c' : Flow (H.answeringWith calls) β} {env : H.Env}
    {next : Outcome H β → H.World → Program H α}
    {next' : Outcome (H.answeringWith calls) β → H.World → Program (H.answeringWith calls) α}
    (hc : c.Matches seen d c') (hw : seen w = seen w')
    (hnext : ∀ o v v', seen v = seen v' →
      (next o v).Matches seen d start (next' (o.recast calls) v')) :
    (Program.run c env s w next).Matches seen d start (.run c' env s w' next') :=
  run (hc env s w w' hw) (hnext _ _ _ (hc env s w w' hw).world)

/-- Something that is handed to the sinks, which do the same about it. -/
theorem sink {e : Effect H Unit} {e' : Effect (H.answeringWith calls) Unit}
    (hperform : (H.answeringWith calls).perform e' = H.perform e)
    (he : (H.perform e).Blind seen) (hasked : ∀ r, (e.sightings r).filter Sighting.isAsked = [])
    (hasked' : ∀ r, (e'.sightings r).filter Sighting.isAsked = []) (hw : seen w = seen w')
    {next : Except Thrown Unit → H.World → Program H α}
    {next' : Except Thrown Unit → H.World → Program (H.answeringWith calls) α}
    (hnext : ∀ r v v', seen v = seen v' → (next r v).Matches seen d start (next' r v')) :
    (Program.effect e w next).Matches seen d start (.effect e' w' next') := by
  have hsame := he w w' hw
  have hrest := hnext (H.perform e w).1 _ _ hsame.seen_eq
  have hp : (Program.effect e w next).history d start =
      ((next (H.perform e w).1 (H.perform e w).2).history d start).after
        [.did e (H.perform e w).1] := rfl
  have hp' : (Program.effect e' w' next').history (d.recast calls) start =
      ((next' (H.perform e w).1 (H.perform e w').2).history (d.recast calls) start).after
        [.did e' (H.perform e w).1] := by
    rw [hsame.fst_eq, ← hperform]
    rfl
  refine ⟨?_, ?_, ?_⟩
  · rw [hp, hp']
    exact hrest.outcome
  · rw [hp, hp']
    exact hrest.world
  · rw [hp, hp', History.asked_after, History.asked_after, hrest.asked]
    simp only [Event.allAsked, List.flatMap_cons, List.flatMap_nil, List.append_nil,
      Event.sightings, hasked, hasked']

/-- The line is announced on both sides, and what follows matches. -/
theorem announce (host : H.Unmarked seen) {node : Log} (hw : seen w = seen w')
    {next : H.World → Program H α} {next' : H.World → Program (H.answeringWith calls) α}
    (hnext : ∀ v v', seen v = seen v' → (next v).Matches seen d start (next' v')) :
    (Flow.announce s node w next).Matches seen d start
      (Flow.announce s node w' next' : Program (H.answeringWith calls) α) := by
  unfold Flow.announce
  split
  · exact hnext w w' hw
  · refine sink rfl (host.logLine _ _ _).blind (fun _ => rfl) (fun _ => rfl) hw fun r v v' hv => ?_
    cases r with
    | error e => exact raise e hv
    | ok _ =>
      refine sink rfl (host.publish _ _).blind (fun _ => rfl) (fun _ => rfl) hv
        fun r u u' hu => ?_
      cases r with
      | error e => exact raise e hu
      | ok _ => exact hnext u u' hu

/-- A session is asked the same, and the answers are the same. -/
theorem call {handle : H.Session} {command : Command H.Element H.Datum β}
    (hanswer : Coincide seen Eq (d.answer (H.call handle command) w)
      ((d.recast calls).answer (calls β handle command) w'))
    {next : Except Thrown β → H.World → Program H α}
    {next' : Except Thrown β → H.World → Program (H.answeringWith calls) α}
    (hnext : ∀ r v v', seen v = seen v' → (next r v).Matches seen d start (next' r v')) :
    (Program.outside (.call handle command) w next).Matches seen d start
      (.outside (.call handle command) w' next' : Program (H.answeringWith calls) α) := by
  obtain ⟨houtcome, hworld, -⟩ :=
    answer_outside d (e := .call handle command) (fun _ => rfl) w next start
  obtain ⟨houtcome', hworld', -⟩ :=
    answer_outside (d.recast calls) (e := .call handle command) (fun _ => rfl) w' next' start
  have hrest := hnext (d.answer (H.call handle command) w).1 _ _ hanswer.seen_eq
  have hresult : ((d.recast calls).answer (calls β handle command) w').1 =
      (d.answer (H.call handle command) w).1 := hanswer.fst_eq.symm
  dsimp only [Host.perform] at houtcome houtcome' hworld hworld'
  rw [hresult] at houtcome' hworld'
  refine ⟨?_, ?_, ?_⟩
  · rw [houtcome', houtcome]
    exact hrest.outcome
  · rw [hworld', hworld]
    exact hrest.world
  · rw [asked_call, asked_call]
    dsimp only
    rw [hresult, hrest.asked]

/-- The steps that take the places of these match when their flows do. -/
theorem endWith {c : Flow H α} {c' : Flow (H.answeringWith calls) α} {env : H.Env}
    (hc : (c env s w).Matches seen d s (c' env s w')) :
    (c.endWith env s w).Matches seen d start (c'.endWith env s w') :=
  run hc (finish rfl hc.world)

end Program.Matches

/-! ## Flows that match -/

namespace Flow.Matches

/-- A value matches itself. -/
theorem pure (a : α) :
    (Flow.pure a).Matches seen d (Flow.pure a : Flow (H.answeringWith calls) α) :=
  fun _ s _ _ hw => .value a s hw

/-- Flows that match go on with flows that match. -/
theorem bind_ok {c : Flow H α} {c' : Flow (H.answeringWith calls) α} {f : α → Flow H β}
    {f' : α → Flow (H.answeringWith calls) β} (hc : c.Matches seen d c')
    (hf : ∀ a, (f a).Matches seen d (f' a)) :
    (c.bind fun a => .ok (f a)).Matches seen d (c'.bind fun a => .ok (f' a)) := by
  intro env s w w' hw
  refine .step hc hw fun o v v' hv => ?_
  cases o with
  | faulted a t h => exact .finish rfl hv
  | success a t h => exact .endWith (hf a env t v v' hv)

/-- The value may be changed on both sides. -/
theorem map_ok {c : Flow H α} {c' : Flow (H.answeringWith calls) α} (f : α → β)
    (hc : c.Matches seen d c') :
    (c.map fun a => .ok (f a)).Matches seen d (c'.map fun a => .ok (f a)) := by
  intro env s w w' hw
  refine .step hc hw fun o v v' hv => ?_
  cases o with
  | faulted a t h => exact .finish rfl hv
  | success a t h => exact .value (f a) t hv

/-- A failure is written and recorded on both sides. -/
theorem fail (host : H.Unmarked seen) (f : Failure) :
    (Flow.fail f : Flow H α).Matches seen d (Flow.fail f : Flow (H.answeringWith calls) α) := by
  refine bind_ok (fun env s w w' hw => .announce host hw fun v v' hv => .value () _ hv) fun _ => ?_
  exact fun env s w w' hw => .finish rfl hw

/-- A list of flows that match one by one. -/
theorem sequence {items : List (Flow H α)} {items' : List (Flow (H.answeringWith calls) α)}
    (h : List.Forall₂ (Flow.Matches seen d) items items') :
    (Flow.sequence items).Matches seen d (Flow.sequence items') := by
  have hfrom (gathered : List α) (env : H.Env) (s start : H.State) (w w' : H.World)
      (hw : seen w = seen w') : (Flow.sequenceFrom env gathered items s w).Matches seen d start
        (Flow.sequenceFrom env gathered items' s w' :
          Program (H.answeringWith calls) (List α)) := by
    induction h generalizing gathered s w w' with
    | nil => exact .value gathered.reverse s hw
    | cons hitem hitems ih =>
      refine .step hitem hw fun o v v' hv => ?_
      cases o with
      | faulted a t h => exact .finish rfl hv
      | success a t h => exact ih (a :: gathered) t v v' hv
  exact fun env s w w' hw => hfrom [] env s s w w' hw

end Flow.Matches

/-! ## Asking a session -/

/-- The starts and the ends of steps ask nothing. -/
theorem History.asked_outward (h : History H α) : h.outward.asked = h.asked := by
  obtain ⟨events, o, w⟩ := h
  unfold asked sightings outward
  induction events with
  | nil => rfl
  | cons e events ih =>
    rw [List.filter_cons, List.flatMap_cons, List.filter_append, ← ih]
    cases e with
    | started s => rfl
    | ended o => rfl
    | did e r => exact List.filter_append ..
    | slept t => exact List.filter_append ..
    | awaited code r => exact List.filter_append ..

section

variable {s : H.State} {w v : H.World} {handle : H.Session} {command : Command H.Element H.Datum α}
  (env : H.Env) (hs : s.failures = []) (hsession : s.session = some handle)

include hs hsession

/-- The session is asked once, and what follows depends on its answer. -/
theorem Flow.behaviour_callSession (d : Driver H) (label : String) (w : H.World) :
    let h := (callSession label command).behaviour d env s w
    let rest := behaviourTried d label env s (d.answer (H.call handle command) w)
    h.outcome = rest.outcome ∧ h.world = rest.world ∧
      h.asked = .asked handle command :: rest.asked := by
  intro h rest
  have hbehaviour : h = (behaviourReplied d label env s (H.call handle command w)).after
      [.did (.call handle command) (H.call handle command w).1] := by
    show (callSession label command).behaviour d env s w = _
    unfold callSession
    rw [behaviour_bind, behaviour_session hsession, History.atOnce_onSuccess hs]
    exact behaviour_tryEffect (.call handle command) label w
  rw [hbehaviour, History.asked_after]
  unfold rest Driver.answer
  rcases H.call handle command w with ⟨e | reply, v⟩
  · exact ⟨rfl, rfl, rfl⟩
  · cases reply with
    | value a => exact ⟨rfl, rfl, rfl⟩
    | awaitable later =>
      refine ⟨rfl, rfl, ?_⟩
      unfold behaviourReplied
      rw [History.asked_after]
      rfl

/-- A session that answers is asked once. -/
theorem Flow.behaviour_callSession_of_ok {a : α} (label : String)
    (hanswer : d.answer (H.call handle command) w = (.ok a, v)) :
    let h := (callSession label command).behaviour d env s w
    h.outcome = .success a s hs ∧ h.world = v ∧ h.asked = [.asked handle command] := by
  intro h
  obtain ⟨houtcome, hworld, hasked⟩ := behaviour_callSession env hs hsession d label w
  rw [hanswer] at houtcome hworld hasked
  exact ⟨houtcome.trans (Outcome.of_eq_success hs), hworld, hasked⟩

/-- When a session throws, all that follows is that a line is written. -/
theorem Flow.behaviour_callSession_of_error (host : H.Unmarked seen) {e : Thrown} (label : String)
    (hanswer : d.answer (H.call handle command) w = (.error e, v)) :
    let h := (callSession label command).behaviour d env s w
    h.outcome.isFaulted = true ∧ seen h.world = seen v ∧ h.asked = [.asked handle command] := by
  intro h
  obtain ⟨houtcome, hworld, hasked⟩ := behaviour_callSession env hs hsession d label w
  let told : Flow H α := fail (.ofThrown e (some label))
  have hrest : behaviourTried d label env s (d.answer (H.call handle command) w) =
      told.behaviour d env s v := by
    rw [hanswer]
    rfl
  have htold : seen (told.behaviour d env s v).world = seen v ∧
      (told.behaviour d env s v).asked = [] := by
    obtain ⟨hseen, hnothing⟩ : (told env s v).Apart seen d v s := .fail host _ env rfl
    rw [behaviour_eq, History.asked_outward]
    exact ⟨hseen, hnothing⟩
  rw [hrest] at houtcome hworld hasked
  refine ⟨?_, ?_, ?_⟩
  · rw [houtcome]
    exact (reports_fail _ env hs v).faulted
  · rw [hworld, htold.1]
  · rw [hasked, htold.2]

end

/-- Nothing can be asked without a session, or when something has failed before. -/
theorem Flow.isFaulted_session {s : H.State} {w : H.World} (env : H.Env)
    (h : ¬(s.failures = [] ∧ ∃ handle, s.session = some handle)) :
    (((session : Flow H H.Session) env s w).history d s).outcome.isFaulted = true := by
  unfold session
  cases hsession : s.session with
  | none => rfl
  | some handle =>
    have hs : s.failures ≠ [] := fun hs => h ⟨hs, handle, hsession⟩
    show (Outcome.of handle s).isFaulted = true
    rw [Outcome.isFaulted_iff, Outcome.failures, Outcome.state_of]
    exact hs

namespace Flow.Matches

/-- Flows that show the same and leave the same match. -/
theorem of_behaviour {c : Flow H α} {c' : Flow (H.answeringWith calls) α} {env : H.Env}
    {s : H.State} {w w' : H.World}
    (houtcome : (c'.behaviour (d.recast calls) env s w').outcome =
      (c.behaviour d env s w).outcome.recast calls)
    (hworld : seen (c.behaviour d env s w).world =
      seen (c'.behaviour (d.recast calls) env s w').world)
    (hasked : (c'.behaviour (d.recast calls) env s w').asked = (c.behaviour d env s w).asked) :
    (c env s w).Matches seen d s (c' env s w') := by
  rw [behaviour_eq, behaviour_eq] at houtcome hworld hasked
  rw [History.asked_outward, History.asked_outward] at hasked
  exact ⟨houtcome, hworld, hasked⟩

/-- Both sides have the session of the state. -/
theorem session :
    (Flow.session : Flow H H.Session).Matches seen d
      (Flow.session : Flow (H.answeringWith calls) H.Session) := by
  intro env s w w' hw
  unfold Flow.session
  cases s.session with
  | none => exact .finish rfl hw
  | some handle => exact .value handle s hw

/-- Where a session can be asked, it is asked once, and both flows do the same about the answer.
Elsewhere both fail at once. -/
theorem callSession_at (host : H.Unmarked seen) (label : String)
    {command : Command H.Element H.Datum α} (env : H.Env) {s : H.State} {w w' : H.World}
    (hw : seen w = seen w')
    (hanswer : ∀ handle, s.failures = [] → s.session = some handle →
      Coincide seen Eq (d.answer (H.call handle command) w)
        ((d.recast calls).answer (calls α handle command) w')) :
    (Flow.callSession label command env s w).Matches seen d s
      (Flow.callSession label command env s w' : Program (H.answeringWith calls) α) := by
  have hsessions : (Flow.session env s w).Matches seen d s
      (Flow.session env s w' : Program (H.answeringWith calls) H.Session) := session env s w w' hw
  refine .run hsessions ?_
  by_cases hasks : s.failures = [] ∧ ∃ handle, s.session = some handle
  · obtain ⟨hs, handle, hsession⟩ := hasks
    have hmade : (Flow.session env s w).history d s = ⟨[], .success handle s hs, w⟩ := by
      unfold Flow.session
      rw [hsession]
      exact congrArg (History.mk [] · w) (Outcome.of_eq_success hs)
    have hmade' : ((Flow.session env s w' : Program (H.answeringWith calls) H.Session).history
        (d.recast calls) s).world = w' := by
      unfold Flow.session
      rw [hsession]
      rfl
    rw [hmade, hmade']
    refine .endWith (.call (hanswer handle hs hsession) fun r v v' hv => ?_)
    cases r with
    | ok a => exact .value a s hv
    | error e => exact .endWith (fail host _ env s v v' hv)
  · have hfaulted := isFaulted_session (d := d) (w := w) env hasks
    have hworld := hsessions.world
    generalize ((Flow.session env s w).history d s).outcome = o at hfaulted ⊢
    cases o with
    | success handle t h => cases hfaulted
    | faulted a t h => exact .finish rfl hworld

/-- Changing the type of a value keeps a match from a state. -/
theorem retype_at {c : Flow H α} {c' : Flow (H.answeringWith calls) α} {env : H.Env} {s : H.State}
    {w w' : H.World} (f : α → β) (hc : (c env s w).Matches seen d s (c' env s w')) :
    (c.retype f env s w).Matches seen d s (c'.retype f env s w') := by
  unfold Flow.retype
  refine ⟨?_, ?_, ?_⟩
  · rw [Program.history_map, Program.history_map]
    exact (congrArg (Outcome.map f) hc.outcome).trans (Outcome.recast_map f _).symm
  · rw [Program.history_map, Program.history_map]
    exact hc.world
  · rw [Program.history_map, Program.history_map]
    exact hc.asked

/-- The alternatives are run from the state before, whatever the flows that failed have left. -/
theorem orElse_at {c e : Flow H α} {c' e' : Flow (H.answeringWith calls) α} {env : H.Env}
    {s : H.State} {w w' : H.World} (hc : (c env s w).Matches seen d s (c' env s w'))
    (he : e.Matches seen d e') :
    (c.orElse e env s w).Matches seen d s (c'.orElse e' env s w') := by
  refine .run hc ?_
  have hworld := hc.world
  generalize ((c env s w).history d s).outcome = left
  cases left with
  | success a t h => exact .finish rfl hworld
  | faulted a t h =>
    refine .step he hworld fun right v v' hv => ?_
    cases right with
    | success a u h => exact .finish rfl hv
    | faulted a u h => exact .finish rfl hv

end Flow.Matches

/-! ## Snapshots -/

namespace Flow

variable {env : H.Env} {s : H.State} {w : H.World}

/-- Changing the type of a value shows nothing else. -/
theorem behaviour_retype (c : Flow H α) (f : α → β) :
    (c.retype f).behaviour d env s w = (c.behaviour d env s w).map f := by
  rw [behaviour_eq, behaviour_eq, retype, Program.history_map]
  rfl

/-- A flow that fails is undone when a value is the alternative, but for what it has asked. -/
theorem behaviour_orElse_pure_of_failure (hs : s.failures = []) {c : Flow H α}
    (hc : (c.behaviour d env s w).outcome.isFaulted = true) (a : α) :
    let h := (c.orElse (pure a)).behaviour d env s w
    h.outcome = .success a s hs ∧ h.world = (c.behaviour d env s w).world ∧
      h.asked = (c.behaviour d env s w).asked := by
  intro h
  have hbehaviour : h = _ := behaviour_orElse_of_failure hc (pure a)
  rw [behaviour_pure, Outcome.of_eq_success hs] at hbehaviour
  rw [hbehaviour, History.asked_after]
  exact ⟨rfl, rfl, List.append_nil _⟩

end Flow

namespace Selector

open Walkthrough.Flow

/-- Asks for the identifier of an element; one that cannot be read is empty. -/
def identifierProbe (label : String) (element : H.Element) : Flow H (Snapshot → Snapshot) :=
  (probe label "element id" (.elementId element) fun a s => { s with elementId := a }).orElse
    (.pure fun s => { s with elementId := "" })

section

variable {s : H.State} {w v : H.World} {handle : H.Session} (env : H.Env) (hs : s.failures = [])
  (hsession : s.session = some handle)

/-- A probe shows what the call of the session shows. -/
theorem behaviour_probe (label property : String) (command : Command H.Element H.Datum α)
    (fill : α → Snapshot → Snapshot) :
    (probe label property command fill).behaviour d env s w =
      ((callSession ("Failed to read " ++ property ++ " of " ++ label) command).behaviour d env s
        w).map fill :=
  behaviour_retype ..

include hs hsession

/-- A property that is read is filled in, and nothing else changes. -/
theorem behaviour_probe_of_ok {command : Command H.Element H.Datum α} {a : α}
    (label property : String) (fill : α → Snapshot → Snapshot)
    (hanswer : d.answer (H.call handle command) w = (.ok a, v)) :
    let h := (probe label property command fill).behaviour d env s w
    h.outcome = .success (fill a) s hs ∧ h.world = v ∧ h.asked = [.asked handle command] := by
  intro h
  have hprobe : h = _ := behaviour_probe env label property command fill
  obtain ⟨houtcome, hworld, hasked⟩ := behaviour_callSession_of_ok env hs hsession
    ("Failed to read " ++ property ++ " of " ++ label) hanswer
  rw [hprobe]
  exact ⟨congrArg (Outcome.map fill) houtcome, hworld, hasked⟩

/-- An identifier that is read is filled in, and nothing else changes. -/
theorem behaviour_identifierProbe_of_ok {element : H.Element} {text : String} (label : String)
    (hanswer : d.answer (H.call handle (.elementId element)) w = (.ok text, v)) :
    let h := (identifierProbe label element).behaviour d env s w
    h.outcome = .success (fun s => { s with elementId := text }) s hs ∧ h.world = v ∧
      h.asked = [.asked handle (.elementId element)] := by
  intro h
  obtain ⟨houtcome, hworld, hasked⟩ := behaviour_probe_of_ok env hs hsession label
    "element id" (fun a s => { s with elementId := a }) hanswer
  have hprobe : h = _ := behaviour_orElse_of_success d env s w (by rw [houtcome]; rfl) _
  rw [hprobe]
  exact ⟨houtcome, hworld, hasked⟩

/-- For an identifier that cannot be read an empty one is filled in. The state is the one before,
and the world looks as it does after the call. -/
theorem behaviour_identifierProbe_of_error (host : H.Unmarked seen) {element : H.Element}
    {e : Thrown} (label : String)
    (hanswer : d.answer (H.call handle (.elementId element)) w = (.error e, v)) :
    let h := (identifierProbe label element).behaviour d env s w
    h.outcome = .success (fun s => { s with elementId := "" }) s hs ∧ seen h.world = seen v ∧
      h.asked = [.asked handle (.elementId element)] := by
  intro h
  obtain ⟨hfaulted, hworld, hasked⟩ := behaviour_callSession_of_error env hs hsession host
    ("Failed to read " ++ "element id" ++ " of " ++ label) hanswer
  have hprobe := behaviour_probe (d := d) (s := s) (w := w) env label "element id"
    (.elementId element) fun a (s : Snapshot) => { s with elementId := a }
  obtain ⟨houtcome, hundone, hundoneAsked⟩ := behaviour_orElse_pure_of_failure hs
    (by rw [hprobe]; exact (Outcome.isFaulted_map ..).trans hfaulted)
    fun s : Snapshot => { s with elementId := "" }
  rw [hprobe] at hundone hundoneAsked
  exact ⟨houtcome, (congrArg seen hundone).trans hworld, hundoneAsked.trans hasked⟩

end

/-- The probes for identifiers match. Where a session throws and the other one gives the empty text,
the first run is undone, and both go on from the state before. -/
theorem matches_identifierProbe (host : H.Unmarked seen) (lenient : d.Lenient seen)
    (label : String) (element : H.Element) :
    (identifierProbe label element).Matches seen d
      (identifierProbe label element : Flow (H.answeringWith (H.naming unread)) _) := by
  intro env s w w' hw
  have halike (hsame : ∀ handle, s.failures = [] → s.session = some handle →
      Coincide seen Eq (d.answer (H.call handle (.elementId element)) w)
        ((d.recast (H.naming unread)).answer
          (H.naming unread String handle (.elementId element)) w')) :
      (identifierProbe label element env s w).Matches seen d s
        (identifierProbe label element env s w' :
          Program (H.answeringWith (H.naming unread)) _) :=
    Flow.Matches.orElse_at
      (Flow.Matches.retype_at _ (Flow.Matches.callSession_at host _ env hw hsame)) (.pure _)
  by_cases hasks : s.failures = [] ∧ ∃ handle, s.session = some handle
  · obtain ⟨hs, handle, hsession⟩ := hasks
    obtain hsame | ⟨e, v, v', hthrew, hempty, hv⟩ :=
      lenient.answer_naming host unread handle element hw
    · refine halike fun handle' _ hsession' => ?_
      rw [hsession] at hsession'
      cases hsession'
      exact hsame
    · obtain ⟨houtcome, hworld, hasked⟩ :=
        behaviour_identifierProbe_of_error env hs hsession host label hthrew
      obtain ⟨houtcome', hworld', hasked'⟩ := behaviour_identifierProbe_of_ok
        (H := H.answeringWith (H.naming unread)) env hs hsession label hempty
      refine Flow.Matches.of_behaviour ?_ ?_ (hasked'.trans hasked.symm)
      · rw [houtcome, houtcome']
        rfl
      · rw [hworld, hworld', hv]
  · exact halike fun handle hs hsession => absurd ⟨hs, handle, hsession⟩ hasks

/-- A probe that asks no identifier matches itself. -/
theorem matches_probe (host : H.Unmarked seen) (lenient : d.Lenient seen) (label property : String)
    {command : Command H.Element H.Datum α} (fill : α → Snapshot → Snapshot)
    (hcommand : ∀ handle, calls α handle command = H.call handle command) :
    (probe label property command fill).Matches seen d
      (probe label property command fill : Flow (H.answeringWith calls) _) := by
  intro env s w w' hw
  refine Flow.Matches.retype_at fill (Flow.Matches.callSession_at host _ env hw ?_)
  intro handle _ _
  rw [hcommand, Driver.answer_recast]
  exact lenient.settle (host.call handle command w w' hw)

/-- Snapshots of an element match probe by probe. -/
theorem matches_snapshotElement (host : H.Unmarked seen) (lenient : d.Lenient seen)
    (element : H.Element) (a : Selector H) (index : Int) :
    (a.snapshotElement element index).Matches seen d
      ((a.recast (H.naming unread)).snapshotElement element index :
        Flow (H.answeringWith (H.naming unread)) Snapshot) := by
  unfold snapshotElement
  rw [describe_recast]
  refine .map_ok _ (.sequence ?_)
  -- only the identifier is answered differently
  refine .cons (matches_identifierProbe host lenient _ element) ?_
  repeat refine .cons (matches_probe host lenient _ _ _ fun _ => rfl) ?_
  exact .nil

/-- The part of a snapshot that follows the search: a snapshot of each element that was found. -/
def snapshotEach (a : Selector H) (found : List H.Element) : Flow H (List Snapshot) :=
  .sequence (found.zipIdx.map fun (element, index) => a.snapshotElement element (index : Nat))

/-- The snapshots of some elements do not depend on whether the identifiers of some of them throw or
are empty. -/
theorem matches_snapshotEach (host : H.Unmarked seen) (lenient : d.Lenient seen) (a : Selector H)
    (found : List H.Element) :
    (a.snapshotEach found).Matches seen d ((a.recast (H.naming unread)).snapshotEach found) := by
  refine .sequence ?_
  rw [List.forall₂_map_left_iff, List.forall₂_map_right_iff, List.forall₂_same]
  exact fun indexed _ => matches_snapshotElement host lenient indexed.1 a indexed.2

end Selector

end Walkthrough
