import Walkthrough.Proofs.Faults.Recording

/-!
# Folded failures in scopes

A failure of a batch is a tree. Its inner nodes are the folded failures, and the failures that were
folded are its leaves (`Failure.leaves`); a folded failure without members is a leaf as well. The
labels of the scopes around it are given to it one after the other (`Failure.nest`).

`Failure` has no place for the message of a folded failure: the message is read off the members. A
`Kept` failure is the same tree with every message in its place, where a scope adds its label to a
plain failure without looking at the message, and builds a folded one anew. `keep_within` and
`text_keep` say that both are the same failures, and `Kept.InStep` that at each folded failure the
message in its place is the one that its members give.

Headline: `nest_keeps_structure`. The text of the whole is that of its leaves side by side because
joining joined groups is joining all of them (`intercalate_flatten`), as long as no group is empty;
that is what makes a folded failure without members a leaf.
-/

namespace Walkthrough

/-- Joining groups that are joined themselves is joining all that is in them. -/
theorem intercalate_flatten (mark : String) (groups : List (List String))
    (hgroups : ∀ group ∈ groups, group ≠ []) :
    mark.intercalate (groups.map mark.intercalate) = mark.intercalate groups.flatten := by
  induction groups with
  | nil => rfl
  | cons group groups ih =>
    obtain ⟨hgroup, hothers⟩ := List.forall_mem_cons.mp hgroups
    rw [List.map_cons, List.flatten_cons]
    cases groups with
    | nil => rw [List.map_nil, List.flatten_nil, List.append_nil, String.intercalate_singleton]
    | cons other groups =>
      -- an empty group would leave two marks side by side
      have hne : (other :: groups).flatten ≠ [] := by
        intro hnil
        exact hothers other List.mem_cons_self (List.flatten_eq_nil_iff.mp hnil other
          List.mem_cons_self)
      rw [String.intercalate_append_of_ne_nil hgroup hne, ← ih hothers, List.map_cons,
        String.intercalate_cons_cons]

/-! ## Failures with their messages in place -/

/-- A failure with the message that it was made with. -/
inductive Kept where
  | plain (kindName message : String) (breadcrumb : List String) (cause : Option Fault)
  /-- Several failures folded into one. -/
  | folded (message : String) (members : List Kept) (breadcrumb : List String)
    (cause : Option Fault)

namespace Kept

/-- The text of a failure: a folded one shows its message, any other one the path as well. -/
def text : Kept → String
  | plain _ message breadcrumb _ => Failure.located message breadcrumb
  | folded message _ _ _ => message

/-- Failures folded into one, with the message that their texts give. -/
def collected (members : List Kept) (breadcrumb : List String) (cause : Option Fault) : Kept :=
  folded (String.intercalate "; " (members.map text)) members breadcrumb cause

mutual

/-- The failure as it is seen from the scope around it. A plain failure gets the label; of a folded
one all members get it, and the failure is made anew. -/
def within (label : String) : Kept → Kept
  | plain kindName message breadcrumb cause => plain kindName message (label :: breadcrumb) cause
  | folded _ members breadcrumb cause =>
    collected (allWithin label members) (label :: breadcrumb) cause

/-- Several failures as they are seen from the scope around them. -/
def allWithin (label : String) : List Kept → List Kept
  | [] => []
  | k :: ks => within label k :: allWithin label ks

end

/-- The failure as it is seen after it left scopes with these labels, one after the other. -/
def nest (labels : List String) (k : Kept) : Kept := labels.foldl (fun k label => k.within label) k

/-- At every folded failure of the tree the message is the texts of the members side by side. -/
inductive InStep : Kept → Prop where
  | plain (kindName message : String) (breadcrumb : List String) (cause : Option Fault) :
      InStep (plain kindName message breadcrumb cause)
  | folded {message : String} {members : List Kept} (breadcrumb : List String)
      (cause : Option Fault) (hmessage : message = String.intercalate "; " (members.map text))
      (hmembers : ∀ k ∈ members, k.InStep) : InStep (folded message members breadcrumb cause)

end Kept

namespace Failure

mutual

/-- The failure with its messages in place. -/
def keep : Failure → Kept
  | single kind message breadcrumb cause => .plain kind.name message breadcrumb cause
  | composite members breadcrumb cause => .collected (keepAll members) breadcrumb cause
  | group members breadcrumb =>
    .plain "FlowErrorGroup" (String.intercalate "\n" (texts members)) breadcrumb none

/-- Several failures with their messages in place. -/
def keepAll : List Failure → List Kept
  | [] => []
  | f :: fs => keep f :: keepAll fs

end

mutual

/-- A failure whose messages are kept shows what it showed. -/
theorem text_keep : ∀ f : Failure, f.keep.text = f.text
  | single kind message breadcrumb cause => rfl
  | composite members breadcrumb cause => by
    show String.intercalate "; " ((keepAll members).map Kept.text) = _
    rw [texts_keepAll members, text]
  | group members breadcrumb => rfl

/-- The same for several failures. -/
theorem texts_keepAll : ∀ fs : List Failure, (keepAll fs).map Kept.text = texts fs
  | [] => rfl
  | f :: fs => by rw [keepAll, List.map_cons, text_keep f, texts_keepAll fs, texts]

end

mutual

/-- A scope does the same to a failure and to the one with its messages in place. -/
theorem keep_within (label : String) : ∀ f : Failure,
    (f.within label).keep = f.keep.within label
  | single kind message breadcrumb cause => rfl
  | composite members breadcrumb cause => by
    have hmembers := keepAll_allWithin label members
    rw [within, keep, hmembers]
    rfl
  | group members breadcrumb => rfl

/-- Nesting may be done before the messages are put in place or after it. -/
theorem keepAll_allWithin (label : String) : ∀ fs : List Failure,
    keepAll (allWithin label fs) = Kept.allWithin label (keepAll fs)
  | [] => rfl
  | f :: fs => by
    rw [allWithin, keepAll, keepAll, Kept.allWithin, keep_within label f,
      keepAll_allWithin label fs]

end

mutual

/-- Messages that have just been put in place are in step with the members. -/
theorem inStep_keep : ∀ f : Failure, f.keep.InStep
  | single .. => .plain ..
  | composite members _ _ => .folded _ _ rfl (inStep_keepAll members)
  | group .. => .plain ..

/-- The same for several failures. -/
theorem inStep_keepAll : ∀ (fs : List Failure), ∀ k ∈ keepAll fs, k.InStep
  | [], _, hk => absurd hk List.not_mem_nil
  | f :: fs, k, hk => by
    rw [keepAll] at hk
    rcases List.mem_cons.mp hk with rfl | hlater
    · exact inStep_keep f
    · exact inStep_keepAll fs k hlater

end

/-! ## Leaves -/

/-- Failures of a batch are folded in the failure. -/
def folds : Failure → Bool
  | composite .. => true
  | _ => false

mutual

/-- The failures that were folded, in order. What has no members folded in it is its own leaf. -/
def leaves : Failure → List Failure
  | single kind message breadcrumb cause => [single kind message breadcrumb cause]
  | composite members breadcrumb cause =>
    if members.isEmpty then [composite members breadcrumb cause] else allLeaves members
  | group members breadcrumb => [group members breadcrumb]

/-- The leaves of several failures. -/
def allLeaves : List Failure → List Failure
  | [] => []
  | f :: fs => leaves f ++ allLeaves fs

end

/-- The leaves of several failures are those of each, one after the other. -/
theorem allLeaves_eq_flatMap (fs : List Failure) : allLeaves fs = fs.flatMap leaves := by
  induction fs with
  | nil => rfl
  | cons f fs ih => rw [allLeaves, ih, List.flatMap_cons]

/-- A composite with members has the leaves of its members. -/
theorem leaves_composite {members : List Failure} (breadcrumb : List String)
    (cause : Option Fault) (hmembers : members ≠ []) :
    (composite members breadcrumb cause).leaves = members.flatMap leaves := by
  rw [leaves, if_neg (by rwa [List.isEmpty_iff]), allLeaves_eq_flatMap]

/-- Every failure has a leaf. -/
theorem leaves_ne_nil : ∀ f : Failure, f.leaves ≠ []
  | single .. => List.cons_ne_nil _ _
  | composite [] _ _ => List.cons_ne_nil _ _
  | composite (f :: fs) breadcrumb cause => by
    rw [leaves_composite breadcrumb cause (List.cons_ne_nil f fs), List.flatMap_cons]
    exact List.append_ne_nil_of_left_ne_nil (leaves_ne_nil f) _
  | group .. => List.cons_ne_nil _ _

mutual

/-- The text of a failure is that of its leaves side by side. -/
theorem text_eq_leaves : ∀ f : Failure,
    f.text = String.intercalate "; " (f.leaves.map text)
  | single .. => String.intercalate_singleton.symm
  | composite [] _ _ => rfl
  | composite (f :: fs) breadcrumb cause => by
    have htexts := texts_eq_leaves (f :: fs)
    have hgroups : ∀ group ∈ (f :: fs).map fun g => g.leaves.map text, group ≠ [] := by
      intro group hgroup
      obtain ⟨g, -, rfl⟩ := List.mem_map.mp hgroup
      exact fun hnil => leaves_ne_nil g (List.map_eq_nil_iff.mp hnil)
    rw [text, htexts, leaves_composite breadcrumb cause (List.cons_ne_nil f fs),
      intercalate_flatten "; " _ hgroups, List.map_flatMap, List.flatMap_def]
  | group .. => String.intercalate_singleton.symm

/-- The text of each failure is made of the texts of its leaves. -/
theorem texts_eq_leaves : ∀ fs : List Failure,
    texts fs = (fs.map fun f => f.leaves.map text).map (String.intercalate "; ")
  | [] => rfl
  | f :: fs => by
    rw [texts, List.map_cons, List.map_cons, text_eq_leaves f, texts_eq_leaves fs]

end

mutual

/-- A scope gives its label to every leaf. -/
theorem leaves_within (label : String) : ∀ f : Failure,
    (f.within label).leaves = f.leaves.map (within label)
  | single .. => rfl
  | composite [] _ _ => rfl
  | composite (f :: fs) breadcrumb cause => by
    have hmembers := allLeaves_allWithin label (f :: fs)
    rw [leaves_composite breadcrumb cause (List.cons_ne_nil f fs), ← allLeaves_eq_flatMap,
      ← hmembers]
    rfl
  | group .. => rfl

/-- A label goes into every leaf. -/
theorem allLeaves_allWithin (label : String) : ∀ fs : List Failure,
    allLeaves (allWithin label fs) = (allLeaves fs).map (within label)
  | [] => rfl
  | f :: fs => by
    rw [allWithin, allLeaves, allLeaves, List.map_append, leaves_within label f,
      allLeaves_allWithin label fs]

end

mutual

/-- Where no folded failure is empty, the leaves are the parts that are none. -/
theorem leaves_eq_filter : ∀ f : Failure,
    (∀ g ∈ f.parts, g.folds = true → g.members ≠ []) → f.leaves = f.parts.filter (!·.folds)
  | single .., _ => rfl
  | composite members breadcrumb cause, hparts => by
    obtain ⟨hown, hothers⟩ := List.forall_mem_cons.mp hparts
    have hmembers : members ≠ [] := hown rfl
    rw [leaves_composite breadcrumb cause hmembers, ← allLeaves_eq_flatMap,
      allLeaves_eq_filter members hothers]
    rfl
  | group .., _ => rfl

/-- Where no composite is empty, the leaves are the parts that fold nothing. -/
theorem allLeaves_eq_filter : ∀ fs : List Failure,
    (∀ g ∈ allParts fs, g.folds = true → g.members ≠ []) →
      allLeaves fs = (allParts fs).filter (!·.folds)
  | [], _ => rfl
  | f :: fs, hparts => by
    rw [allParts] at hparts
    obtain ⟨hfirst, hothers⟩ := List.forall_mem_append.mp hparts
    rw [allLeaves, allParts, List.filter_append, leaves_eq_filter f hfirst,
      allLeaves_eq_filter fs hothers]

end

mutual

/-- A folded failure among the leaves has no members. -/
theorem members_of_mem_leaves {g : Failure} : ∀ f : Failure,
    g ∈ f.leaves → g.folds = true → g.members = []
  | single .., hg, hfolds => by
    rw [List.mem_singleton.mp hg] at hfolds
    exact absurd hfolds Bool.false_ne_true
  | composite [] _ _, hg, _ => by
    rw [List.mem_singleton.mp hg]
    rfl
  | composite (f :: fs) _ _, hg, hfolds => members_of_mem_allLeaves (f :: fs) hg hfolds
  | group .., hg, hfolds => by
    rw [List.mem_singleton.mp hg] at hfolds
    exact absurd hfolds Bool.false_ne_true

/-- A leaf that folds is a composite without members. -/
theorem members_of_mem_allLeaves {g : Failure} : ∀ fs : List Failure,
    g ∈ allLeaves fs → g.folds = true → g.members = []
  | [], hg, _ => absurd hg List.not_mem_nil
  | f :: fs, hg, hfolds => by
    rcases List.mem_append.mp hg with hfirst | hlater
    · exact members_of_mem_leaves f hfirst hfolds
    · exact members_of_mem_allLeaves fs hlater hfolds

end

/-! ## One scope after the other -/

/-- The failure as it is seen after it left scopes with these labels, one after the other. -/
def nest (labels : List String) (f : Failure) : Failure :=
  labels.foldl (fun f label => f.within label) f

/-- Labels from the inside outwards are scopes from the outside inwards. -/
theorem nest_eq_inScopes (labels : List String) (f : Failure) :
    f.nest labels = f.inScopes labels.reverse :=
  List.foldl_eq_foldr_reverse

/-- Nesting one scope after the other is the same for failures whose messages are kept. -/
theorem keep_nest (labels : List String) (f : Failure) :
    (f.nest labels).keep = f.keep.nest labels := by
  induction labels generalizing f with
  | nil => rfl
  | cons label labels ih =>
    show ((f.within label).nest labels).keep = (f.keep.within label).nest labels
    rw [ih, keep_within]

/-- All labels go into every part. -/
theorem parts_nest (labels : List String) (f : Failure) :
    (f.nest labels).parts = f.parts.map (nest labels) := by
  induction labels generalizing f with
  | nil => exact (List.map_id _).symm
  | cons label labels ih =>
    show ((f.within label).nest labels).parts = _
    rw [ih, parts_within, List.map_map]
    rfl

/-- All labels go into every leaf. -/
theorem leaves_nest (labels : List String) (f : Failure) :
    (f.nest labels).leaves = f.leaves.map (nest labels) := by
  induction labels generalizing f with
  | nil => exact (List.map_id _).symm
  | cons label labels ih =>
    show ((f.within label).nest labels).leaves = _
    rw [ih, leaves_within, List.map_map]
    rfl

/-- The members of a folded failure are nested one by one. -/
theorem nest_composite (labels : List String) (members : List Failure) (breadcrumb : List String)
    (cause : Option Fault) : (composite members breadcrumb cause).nest labels =
      composite (members.map (nest labels)) (labels.reverse ++ breadcrumb) cause := by
  induction labels generalizing members breadcrumb with
  | nil =>
    show composite members breadcrumb cause = composite (members.map id) breadcrumb cause
    rw [List.map_id]
  | cons label labels ih =>
    show (composite (allWithin label members) (label :: breadcrumb) cause).nest labels = _
    rw [ih, allWithin_eq_map, List.map_map, List.reverse_cons, List.append_assoc]
    rfl

/-- A failure without members folded in it keeps its message in every scope. -/
theorem message_nest (labels : List String) {f : Failure}
    (hf : f.folds = true → f.members = []) : (f.nest labels).message = f.message := by
  cases f with
  | single kind message breadcrumb cause =>
    induction labels generalizing breadcrumb with
    | nil => rfl
    | cons label labels ih => exact ih (label :: breadcrumb) (absurd · Bool.false_ne_true)
  | composite members breadcrumb cause =>
    obtain rfl : members = [] := hf rfl
    rw [nest_composite]
    rfl
  | group members breadcrumb =>
    induction labels generalizing breadcrumb with
    | nil => rfl
    | cons label labels ih => exact ih (label :: breadcrumb) (absurd · Bool.false_ne_true)

/-- One failure is the other as it is seen after it left scopes with these labels. -/
structure SeenFrom (labels : List String) (g f : Failure) : Prop where
  /-- The scope that was left last comes first. -/
  breadcrumb : g.breadcrumb = labels.reverse ++ f.breadcrumb
  kindName : g.kindName = f.kindName
  cause : g.cause = f.cause

/-- What nesting leaves of a failure, and what it changes. -/
theorem seenFrom_nest (labels : List String) (f : Failure) : (f.nest labels).SeenFrom labels f := by
  rw [nest_eq_inScopes]
  exact ⟨breadcrumb_inScopes .., kindName_inScopes .., cause_inScopes ..⟩

/-- However many scopes a failure leaves, at every folded failure of its tree the message is that
of its members, and the text of the whole is that of its leaves. All parts and leaves stay where
they are, with the labels in front of their paths and nothing else changed. -/
theorem nest_keeps_structure (labels : List String) (f : Failure) :
    (f.keep.nest labels = (f.nest labels).keep ∧ (f.keep.nest labels).InStep) ∧
      (f.keep.nest labels).text =
        String.intercalate "; " ((f.leaves.map (nest labels)).map text) ∧
      (f.nest labels).parts = f.parts.map (nest labels) ∧
      (f.nest labels).leaves = f.leaves.map (nest labels) ∧
      (∀ g : Failure, (g.nest labels).SeenFrom labels g) ∧
      (∀ members breadcrumb cause, (composite members breadcrumb cause).nest labels =
        composite (members.map (nest labels)) (labels.reverse ++ breadcrumb) cause) ∧
      ∀ g ∈ f.leaves, (g.nest labels).message = g.message := by
  have hkept := keep_nest labels f
  have hleaves := leaves_nest labels f
  refine ⟨⟨hkept.symm, ?instep⟩, ?text, parts_nest labels f, hleaves, seenFrom_nest labels,
    nest_composite labels, ?message⟩
  case instep =>
    rw [← hkept]
    exact inStep_keep (f.nest labels)
  case text => rw [← hkept, text_keep, text_eq_leaves, hleaves]
  case message =>
    intro g hg
    exact message_nest labels (members_of_mem_leaves f hg)

example : ((collected [single .general "two" ["inner"] none, collected [],
    single .general "three" [] none]).nest ["outer", "suite"]).text =
      "two (suite → outer → inner); ; three (suite → outer)" := by decide

end Failure

end Walkthrough
