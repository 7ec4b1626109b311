import ConfinedShell.Host.Walk
import ConfinedShell.Proofs.Tree

/-!
# Where walks lead

A walk that arrives does so in legs, each of which ends at a link but the last (`Walks`); what is said
below of walks is proved by induction on that relation. A property of locations that a single step keeps
is carried to what the walk finds (`Carried`).

Two sorts of path matter to a sandbox. A **real** location is one that the host hands out itself: it
stands, it is no link, and its names are plain (`Real`). Every walk that follows links ends at a real
location (`Walks.real`), and a walk that goes on behind it starts there afresh (`Walks.append`).

A **straight** path has plain names and no link on it as far as the host can name its places
(`Straight`). It leads to the location that it spells or nowhere at all, whatever is done with a last
link (`Straight.locate`).
-/

set_option autoImplicit false

namespace ConfinedShell

section Outcomes

variable {ε α β : Type}

/-- A mapped outcome is a success when the outcome was one. -/
theorem map_eq_ok {f : α → β} {x : Except ε α} {b : β} :
    x.map f = .ok b ↔ ∃ a, x = .ok a ∧ f a = b := by
  cases x <;> simp [Except.map]

/-- A mapped outcome is a failure when the outcome was that one. -/
theorem map_eq_error {f : α → β} {x : Except ε α} {e : ε} : x.map f = .error e ↔ x = .error e := by
  cases x <;> simp [Except.map]

/-- Two steps succeed when the first one does and the second one on what it gave. -/
theorem bind_eq_ok {x : Except ε α} {f : α → Except ε β} {b : β} :
    x >>= f = .ok b ↔ ∃ a, x = .ok a ∧ f a = .ok b := by
  cases x <;> simp [bind, Except.bind]

/-- An outcome with a value is a success. -/
theorem ok_of_toOption {x : Except ε α} {a : α} (h : x.toOption = some a) : x = .ok a := by
  cases x with
  | error e => cases h
  | ok b => rw [Option.some.inj h]

end Outcomes

/-- A plain name leads to an entry: it is not empty and none of the dots. -/
def PlainName (name : String) : Prop :=
  name ≠ "" ∧ name ≠ "." ∧ name ≠ ".."

/-- A name that the host takes: not too long, and without a NUL. -/
def HostName (name : String) : Prop :=
  name.utf8ByteSize ≤ nameLimit ∧ '\x00' ∉ name.toList

/-- The location that a place has, or would have once something is made there. -/
def Place.location : Place → Location
  | .found location => location
  | .vacant directory name => directory ++ [name]

@[simp] theorem Place.location_found (location : Location) :
    (Place.found location).location = location := rfl

@[simp] theorem Place.location_vacant (directory : Location) (name : String) :
    (Place.vacant directory name).location = directory ++ [name] := rfl

namespace FileTree

variable {tree : FileTree}

/-! ## Walks that arrive -/

/-- **A walk arrives at a place**: its first leg does, or the leg comes to a link, and from where the link
leads the walk goes on with one link less. -/
inductive Walks (tree : FileTree) (last : LastLink) (place : Place) :
    Nat → Location → List String → Prop where
  | arrives {links : Nat} {here : Location} {parts : List String}
      (reached : tree.leg last here parts = .arrived place) : Walks tree last place links here parts
  | follows {links : Nat} {here holder : Location} {parts rest : List String} {target : String}
      (reached : tree.leg last here parts = .atLink holder target rest)
      (goesOn : Walks tree last place links (linkBase holder target) (linkParts target ++ rest)) :
      Walks tree last place (links + 1) here parts

theorem walks_iff {last : LastLink} {place : Place} {links : Nat} {here : Location}
    {parts : List String} :
    tree.Walks last place links here parts ↔ tree.walk last links here parts = .ok place := by
  constructor
  · intro walks
    induction walks with
    | @arrives links _ _ reached => cases links <;> rw [walk, reached]
    | follows reached _ ih =>
      rw [walk, reached]
      exact ih
  · intro arrived
    induction links generalizing here parts with
    | zero =>
      rw [walk] at arrived
      split at arrived
      · next reached =>
        cases arrived
        exact .arrives reached
      · cases arrived
      · cases arrived
    | succ links ih =>
      rw [walk] at arrived
      split at arrived
      · next reached =>
        cases arrived
        exact .arrives reached
      · cases arrived
      · next reached => exact .follows reached (ih arrived)

/-! ## Vacant places -/

/-- A vacant place is in a directory, which has no entry of that name. -/
theorem leg_vacant {last : LastLink} {here holder : Location} {parts : List String} {name : String}
    (arrived : tree.leg last here parts = .arrived (.vacant holder name)) :
    ∃ entries, tree.at? holder = some (directory entries) ∧ Entries.find? name entries = none := by
  induction parts generalizing here with
  | nil => simp [leg] at arrived
  | cons part rest ih =>
    rw [leg] at arrived
    split at arrived
    · cases arrived
    · cases arrived
    · cases arrived
    · next entries stands =>
      split at arrived
      · exact ih arrived
      split at arrived
      · exact ih arrived
      split at arrived
      · cases arrived
      split at arrived
      · cases arrived
      split at arrived
      · next missing =>
        split at arrived
        · cases arrived
          exact ⟨entries, stands, missing⟩
        · cases arrived
      · split at arrived <;> cases arrived
      · exact ih arrived
      · exact ih arrived

/-- A walk finds a vacant place in a directory, which has no entry of that name. -/
theorem Walks.vacant {last : LastLink} {links : Nat} {here holder : Location} {parts : List String}
    {name : String} (walks : tree.Walks last (.vacant holder name) links here parts) :
    ∃ entries, tree.at? holder = some (directory entries) ∧ Entries.find? name entries = none := by
  induction walks with
  | arrives reached => exact leg_vacant reached
  | follows _ _ ih => exact ih

/-! ## What is carried along -/

/-- A property of locations **is carried along** when it passes to what a location lies in, and from a directory to a
file or a directory in it whose name the host takes. -/
structure Carried (tree : FileTree) (holds : Location → Prop) : Prop where
  above {here above : Location} : holds here → above <+: here → holds above
  child {here : Location} {entries : Entries} {name : String} {node : FileTree} : holds here →
    tree.at? here = some (directory entries) → PlainName name → name.utf8ByteSize ≤ nameLimit →
    Entries.find? name entries = some node → (∀ target, node ≠ link target) → holds (here ++ [name])

namespace Carried

variable {holds : Location → Prop} (carried : tree.Carried holds)
include carried

/-- A leg that follows a last link carries the property to where it ends. -/
theorem leg {here : Location} (start : holds here) (parts : List String) :
    match tree.leg .follow here parts with
    | .arrived (.found location) => holds location
    | .atLink holder _ _ => holds holder
    | _ => True := by
  induction parts generalizing here with
  | nil => exact start
  | cons part rest ih =>
    rw [FileTree.leg]
    cases stands : tree.at? here with
    | none => trivial
    | some node =>
      cases node with
      | file bytes => trivial
      | link target => trivial
      | directory entries =>
        by_cases stays : part = "" ∨ part = "."
        · simp only [if_pos stays]
          exact ih start
        by_cases up : part = ".."
        · simp only [if_neg stays, if_pos up]
          exact ih (carried.above start (List.dropLast_prefix here))
        have plain : PlainName part := ⟨fun h => stays (.inl h), fun h => stays (.inr h), up⟩
        by_cases long : nameLimit < part.utf8ByteSize
        · simp [stays, up, long]
        have fits := Nat.le_of_not_lt long
        simp only [if_neg stays, if_neg up, if_neg long, reduceCtorEq, false_and, if_false, and_false]
        cases found : Entries.find? part entries with
        | none => cases rest <;> trivial
        | some node =>
          cases node with
          | link target => exact start
          | file bytes => exact ih (carried.child start stands plain fits found (fun _ h => nomatch h))
          | directory inner => exact ih (carried.child start stands plain fits found (fun _ h => nomatch h))

/-- The text of a link is read where the property holds. -/
theorem linkBase {holder : Location} (start : holds holder) (target : String) :
    holds (linkBase holder target) := by
  rw [ConfinedShell.linkBase]
  split
  · exact carried.above start List.nil_prefix
  · exact start

/-- **A walk carries the property** to what it finds. -/
theorem walks {links : Nat} {here location : Location} {parts : List String}
    (walks : tree.Walks .follow (.found location) links here parts) (start : holds here) : holds location := by
  induction walks with
  | @arrives _ _ parts reached =>
    have ends := carried.leg start parts
    rw [reached] at ends
    exact ends
  | @follows _ _ _ parts _ target reached _ ih =>
    have ends := carried.leg start parts
    rw [reached] at ends
    exact ih (carried.linkBase ends target)

end Carried

/-! ## Real locations -/

/-- **A real location**: something stands there that is no link, and all names are plain. -/
structure Real (tree : FileTree) (here : Location) : Prop where
  plain : ∀ name ∈ here, PlainName name
  stands : ∃ node, tree.at? here = some node ∧ ∀ target, node ≠ link target

/-- What a real location lies in is real. -/
theorem Real.above {here above : Location} (real : tree.Real here) (inside : above <+: here) :
    tree.Real above := by
  obtain ⟨rest, rfl⟩ := inside
  refine ⟨fun name mem => real.plain name (List.mem_append_left _ mem), ?_⟩
  obtain ⟨node, found, noLink⟩ := real.stands
  by_cases ne : rest = []
  · subst ne
    exact ⟨node, by simpa using found, noLink⟩
  · obtain ⟨entries, stands⟩ := directory_of_at?_append found ne
    exact ⟨_, stands, fun target h => nomatch h⟩

/-- No link stands on a real location. -/
theorem Real.not_link {here above : Location} (real : tree.Real here) (inside : above <+: here)
    (target : String) : tree.at? above ≠ some (link target) := by
  intro isLink
  obtain ⟨node, found, noLink⟩ := (real.above inside).stands
  rw [isLink] at found
  exact noLink target (Option.some.inj found).symm

/-- A file or a directory in a real directory is real. -/
theorem Real.child {here : Location} {entries : Entries} {name : String} {node : FileTree}
    (real : tree.Real here) (stands : tree.at? here = some (directory entries))
    (plain : PlainName name) (found : Entries.find? name entries = some node)
    (noLink : ∀ target, node ≠ link target) : tree.Real (here ++ [name]) := by
  refine ⟨fun other mem => ?_, node, by rw [at?_child stands, found], noLink⟩
  rcases List.mem_append.mp mem with mem | mem
  · exact real.plain other mem
  · rw [List.mem_singleton.mp mem]
    exact plain

/-- Being real is carried along. -/
theorem carried_real (tree : FileTree) : tree.Carried tree.Real where
  above := Real.above
  child real stands plain _ found noLink := real.child stands plain found noLink

/-- A leg that follows a last link ends at a real location, or at a link in a real directory. -/
theorem leg_real {here : Location} (real : tree.Real here) (parts : List String) :
    match tree.leg .follow here parts with
    | .arrived (.found location) => tree.Real location
    | .atLink holder _ _ => tree.Real holder
    | _ => True :=
  tree.carried_real.leg real parts

/-- A leg to a real location arrives there or fails. -/
theorem Real.leg (last : LastLink) {here : Location} {parts : List String} (real : tree.Real (here ++ parts)) :
    tree.leg last here parts = .arrived (.found (here ++ parts)) ∨
      ∃ error, tree.leg last here parts = .failed error := by
  induction parts generalizing here with
  | nil => exact .inl (by simp [FileTree.leg])
  | cons part rest ih =>
    have next : here ++ part :: rest = (here ++ [part]) ++ rest := by simp
    have plain : PlainName part := real.plain part (by simp)
    have stays : ¬ (part = "" ∨ part = ".") := fun h => h.elim plain.1 plain.2.1
    have realNext : tree.Real (here ++ [part]) := real.above (next ▸ List.prefix_append _ _)
    obtain ⟨node, found, noLink⟩ := realNext.stands
    obtain ⟨entries, stands⟩ := directory_of_at?_append found (List.cons_ne_nil _ _)
    rw [at?_child stands] at found
    rw [FileTree.leg, stands]
    simp only [if_neg stays, if_neg plain.2.2, found]
    split
    · exact .inr ⟨_, rfl⟩
    split
    · exact .inr ⟨_, rfl⟩
    rw [next] at real ⊢
    cases node with
    | file bytes => exact ih real
    | link target => exact absurd rfl (noLink target)
    | directory inner => exact ih real

/-- The text of a link in a real directory is read at a real location. -/
theorem Real.linkBase {holder : Location} (real : tree.Real holder) (target : String) :
    tree.Real (linkBase holder target) :=
  tree.carried_real.linkBase real target

/-- **Walks end at real locations.** -/
theorem Walks.real {links : Nat} {here location : Location} {parts : List String}
    (walks : tree.Walks .follow (.found location) links here parts) (real : tree.Real here) :
    tree.Real location :=
  tree.carried_real.walks walks real

/-- No name of what a walk finds is too long. -/
theorem Walks.short {links : Nat} {here location : Location} {parts : List String}
    (walks : tree.Walks .follow (.found location) links here parts)
    (short : ∀ name ∈ here, name.utf8ByteSize ≤ nameLimit) :
    ∀ name ∈ location, name.utf8ByteSize ≤ nameLimit := by
  have carried : tree.Carried fun here => ∀ name ∈ here, name.utf8ByteSize ≤ nameLimit :=
    { above := fun short inside name mem => short name (inside.subset mem)
      child := fun short _ _ fits _ _ name mem => by
        rcases List.mem_append.mp mem with mem | mem
        · exact short name mem
        · rw [List.mem_singleton.mp mem]
          exact fits }
  exact carried.walks walks short

/-! ## Wanting a file -/

/-- A leg that wants a file at the end goes the same way, unless a slash stands behind the last name. -/
theorem leg_create (here : Location) (parts : List String) :
    tree.leg .create here parts = tree.leg .follow here parts ∨ parts.getLast? = some "" := by
  induction parts generalizing here with
  | nil => exact .inl rfl
  | cons part rest ih =>
    by_cases slash : rest.getLast? = some ""
    · cases rest with
      | nil => cases slash
      | cons next rest => exact .inr (by simpa using slash)
    · have same (here : Location) : tree.leg .create here rest = tree.leg .follow here rest :=
        (ih here).resolve_right slash
      have named : ¬ (rest ≠ [] ∧ rest.all String.isEmpty = true) := by
        rintro ⟨ne, blank⟩
        have last := List.all_eq_true.mp blank _ (List.getLast_mem ne)
        exact slash (by rw [List.getLast?_eq_some_getLast ne, String.isEmpty_iff.mp last])
      refine .inl ?_
      rw [leg, leg]
      simp only [same, named, and_false, if_false, reduceCtorEq]

/-- A leg that ends in a slash arrives at a directory, or it goes on behind a link and still ends in a
slash. -/
theorem leg_slash (tree : FileTree) (here : Location) {parts : List String}
    (slash : parts.getLast? = some "") :
    match tree.leg .follow here parts with
    | .arrived place => ∃ location entries, place = .found location ∧
        tree.at? location = some (directory entries)
    | .atLink _ _ rest => rest.getLast? = some ""
    | .failed _ => True := by
  induction parts generalizing here with
  | nil => cases slash
  | cons part rest ih =>
    rw [leg]
    cases stands : tree.at? here with
    | none => trivial
    | some node =>
      cases node with
      | file bytes => trivial
      | link target => trivial
      | directory entries =>
        cases rest with
        | nil =>
          obtain rfl : part = "" := by simpa using slash
          exact ⟨here, entries, rfl, stands⟩
        | cons next rest =>
          have behind : (next :: rest).getLast? = some "" := by simpa using slash
          by_cases stays : part = "" ∨ part = "."
          · simp only [if_pos stays]
            exact ih _ behind
          by_cases up : part = ".."
          · simp only [if_neg stays, if_pos up]
            exact ih _ behind
          by_cases long : nameLimit < part.utf8ByteSize
          · simp [stays, up, long]
          simp only [if_neg stays, if_neg up, if_neg long, reduceCtorEq, false_and, if_false]
          cases Entries.find? part entries with
          | none => trivial
          | some node =>
            cases node with
            | link target => simpa using behind
            | file bytes => exact ih _ behind
            | directory inner => exact ih _ behind

/-- A walk that ends in a slash finds a directory. -/
theorem Walks.slash {links : Nat} {here location : Location} {parts : List String}
    (walks : tree.Walks .follow (.found location) links here parts)
    (slash : parts.getLast? = some "") : ∃ entries, tree.at? location = some (directory entries) := by
  induction walks with
  | @arrives _ here _ reached =>
    have ends := leg_slash tree here slash
    rw [reached] at ends
    obtain ⟨_, entries, same, isDirectory⟩ := ends
    cases same
    exact ⟨entries, isDirectory⟩
  | @follows _ here _ _ _ _ reached _ ih =>
    have ends := leg_slash tree here slash
    rw [reached] at ends
    refine ih ?_
    rw [List.getLast?_append, ends]
    rfl

/-- **A file is found in both ways**: where a walk that follows links finds a file, the walk that wants a
file finds it as well. -/
theorem Walks.create {links : Nat} {here location : Location} {parts : List String}
    {bytes : Text.Bytes} (walks : tree.Walks .follow (.found location) links here parts)
    (isFile : tree.at? location = some (file bytes)) :
    tree.Walks .create (.found location) links here parts := by
  have same (links : Nat) {here : Location} {parts : List String}
      (walks : tree.Walks .follow (.found location) links here parts) :
      tree.leg .create here parts = tree.leg .follow here parts := by
    refine (leg_create here parts).resolve_right fun slash => ?_
    obtain ⟨entries, isDirectory⟩ := walks.slash slash
    rw [isFile] at isDirectory
    cases isDirectory
  induction walks with
  | @arrives links _ _ reached => exact .arrives ((same links (.arrives reached)).trans reached)
  | follows reached goesOn ih =>
    exact .follows ((same _ (.follows reached goesOn)).trans reached) ih

/-! ## Going on behind a location -/

/-- **A longer leg** goes the way of a shorter one that follows links, as far as that one comes, and goes on
from where it arrives. One that wants a file needs a name behind that. -/
theorem leg_append (tree : FileTree) {last : LastLink} {rest : List String} (more : rest ≠ [])
    (named : last = .create → rest.all String.isEmpty = false) (here : Location) (parts : List String) :
    tree.leg last here (parts ++ rest) =
      match tree.leg .follow here parts with
      | .arrived (.found location) => tree.leg last location rest
      | .arrived (.vacant _ _) => .failed .noEntry
      | .atLink holder target left => .atLink holder target (left ++ rest)
      | .failed error => .failed error := by
  induction parts generalizing here with
  | nil => rfl
  | cons part parts ih =>
    have goesOn : ¬ (last = .create ∧ parts ++ rest ≠ [] ∧ (parts ++ rest).all String.isEmpty = true) := by
      rintro ⟨create, -, blank⟩
      rw [List.all_append, named create, Bool.and_false] at blank
      cases blank
    rw [List.cons_append, leg, leg]
    cases stands : tree.at? here with
    | none => rfl
    | some node =>
      cases node with
      | file bytes => rfl
      | link target => rfl
      | directory entries =>
        by_cases stays : part = "" ∨ part = "."
        · simp only [if_pos stays]
          exact ih _
        by_cases up : part = ".."
        · simp only [if_neg stays, if_pos up]
          exact ih _
        simp only [if_neg stays, if_neg up, if_neg goesOn, reduceCtorEq, false_and, if_false, and_false]
        by_cases long : nameLimit < part.utf8ByteSize
        · simp only [if_pos long]
        simp only [if_neg long]
        cases found : Entries.find? part entries with
        | none => cases parts <;> simp [more]
        | some node =>
          cases node with
          | link target => simp [more]
          | file bytes => exact ih _
          | directory inner => exact ih _

/-- Where a walk that follows links arrives, a longer one goes on from. -/
theorem Walks.append {last : LastLink} {links : Nat} {here location : Location} {parts rest : List String}
    {place : Place} (walks : tree.Walks .follow (.found location) links here parts) (more : rest ≠ [])
    (named : last = .create → rest.all String.isEmpty = false)
    (goesOn : tree.leg last location rest = .arrived place) :
    tree.Walks last place links here (parts ++ rest) := by
  induction walks with
  | @arrives _ here parts reached =>
    have longer := leg_append tree more named here parts
    rw [reached] at longer
    exact .arrives (longer.trans goesOn)
  | @follows _ here _ parts _ _ reached _ ih =>
    have longer := leg_append tree more named here parts
    rw [reached] at longer
    rw [List.append_assoc] at ih
    exact .follows longer ih

/-- A walk over a longer path goes on from where the beginning of that path leads. -/
theorem Walks.behind {last : LastLink} {links : Nat} {here location : Location} {parts rest : List String}
    {place : Place} (walks : tree.Walks .follow (.found location) links here parts) (more : rest ≠ [])
    (named : last = .create → rest.all String.isEmpty = false)
    (longer : tree.Walks last place links here (parts ++ rest)) :
    ∃ left, tree.Walks last place left location rest := by
  induction walks with
  | @arrives links here parts reached =>
    have goesOn := leg_append tree more named here parts
    rw [reached] at goesOn
    cases longer with
    | arrives arrived => exact ⟨links, .arrives (goesOn.symm.trans arrived)⟩
    | follows atLink further => exact ⟨_, .follows (goesOn.symm.trans atLink) further⟩
  | @follows links here _ parts _ _ reached _ ih =>
    have goesOn := leg_append tree more named here parts
    rw [reached] at goesOn
    cases longer with
    | arrives arrived =>
      rw [goesOn] at arrived
      cases arrived
    | follows atLink further =>
      rw [goesOn] at atLink
      cases atLink
      rw [← List.append_assoc] at further
      exact ih further

/-! ## Straight paths -/

/-- **A straight path**: plain names, and no link on the way as far as the host takes the names. -/
structure Straight (tree : FileTree) (path : Location) : Prop where
  plain : ∀ name ∈ path, PlainName name
  linkFree : ∀ way, way <+: path → (∀ name ∈ way, HostName name) →
    ∀ target, tree.at? way ≠ some (link target)

/-- The beginning of a straight path is straight. -/
theorem Straight.above {path way : Location} (straight : tree.Straight path)
    (inside : way <+: path) : tree.Straight way :=
  ⟨fun name mem => straight.plain name (inside.subset mem),
    fun above h => straight.linkFree above (h.trans inside)⟩

/-- The path to a real location is straight. -/
theorem Real.straight {path : Location} (real : tree.Real path) : tree.Straight path :=
  ⟨real.plain, fun _ inside _ target => real.not_link inside target⟩

/-- A leg over a straight path without a NUL fails or arrives at the location that the path spells. -/
theorem leg_straight (last : LastLink) (here parts : Location)
    (straight : tree.Straight (here ++ parts)) (taken : ∀ name ∈ here, HostName name)
    (noNul : ∀ name ∈ parts, '\x00' ∉ name.toList) :
    (∃ place, tree.leg last here parts = .arrived place ∧ place.location = here ++ parts) ∨
      ∃ error, tree.leg last here parts = .failed error := by
  induction parts generalizing here with
  | nil => exact .inl ⟨.found here, rfl, by simp⟩
  | cons part rest ih =>
    have plain : PlainName part := straight.plain part (by simp)
    have next : here ++ part :: rest = (here ++ [part]) ++ rest := by simp
    rw [leg]
    cases stands : tree.at? here with
    | none => exact .inr ⟨_, rfl⟩
    | some node =>
      cases node with
      | file bytes => exact .inr ⟨_, rfl⟩
      | link target => exact .inr ⟨_, rfl⟩
      | directory entries =>
        have stays : ¬ (part = "" ∨ part = ".") := fun h => h.elim plain.1 plain.2.1
        simp only [if_neg stays, if_neg plain.2.2]
        split
        · exact .inr ⟨_, rfl⟩
        split
        · exact .inr ⟨_, rfl⟩
        · next short =>
          have taken' : ∀ name ∈ here ++ [part], HostName name := by
            intro name mem
            rcases List.mem_append.mp mem with mem | mem
            · exact taken name mem
            · rw [List.mem_singleton.mp mem]
              exact ⟨Nat.le_of_not_lt short, noNul part List.mem_cons_self⟩
          have further := ih (here ++ [part]) (next ▸ straight) taken'
            fun name mem => noNul name (List.mem_cons_of_mem _ mem)
          rw [next]
          cases found : Entries.find? part entries with
          | none =>
            cases rest with
            | nil => exact .inl ⟨.vacant here part, rfl, by simp⟩
            | cons _ _ => exact .inr ⟨_, rfl⟩
          | some node =>
            cases node with
            | link target =>
              have isLink : tree.at? (here ++ [part]) = some (link target) := by
                rw [at?_child stands, found]
              exact absurd isLink
                (straight.linkFree _ (next ▸ List.prefix_append _ _) taken' target)
            | file bytes => exact further
            | directory inner => exact further

/-- A walk over a straight path without a NUL comes to no link: its first leg arrives. -/
theorem Straight.arrives {path : Location} (straight : tree.Straight path) {last : LastLink}
    {links : Nat} {place : Place} (noNul : ∀ name ∈ path, '\x00' ∉ name.toList)
    (walks : tree.Walks last place links [] path) : tree.leg last [] path = .arrived place := by
  cases walks with
  | arrives reached => exact reached
  | follows reached =>
    rcases leg_straight last [] path straight (fun _ h => nomatch h) noNul with
      ⟨_, leg, -⟩ | ⟨_, leg⟩
    · rw [reached] at leg
      cases leg
    · rw [reached] at leg
      cases leg

/-- A walk over a straight path without a NUL arrives at the location that the path spells. -/
theorem Straight.walks {path : Location} (straight : tree.Straight path) {last : LastLink}
    {links : Nat} {place : Place} (noNul : ∀ name ∈ path, '\x00' ∉ name.toList)
    (walks : tree.Walks last place links [] path) : place.location = path := by
  have reached := straight.arrives noNul walks
  rcases leg_straight last [] path straight (fun _ h => nomatch h) noNul with
    ⟨_, leg, spelt⟩ | ⟨_, leg⟩
  · rw [reached] at leg
    cases leg
    exact spelt
  · rw [reached] at leg
    cases leg

/-- A path that can be handed to the host holds no NUL. -/
theorem checkNames_ok {path : Location} (taken : checkNames path = .ok ()) :
    ∀ name ∈ path, '\x00' ∉ name.toList := by
  intro name mem nul
  rw [checkNames] at taken
  split at taken
  · cases taken
  · next none =>
    exact none (List.any_eq_true.mpr ⟨name, mem, by simpa using nul⟩)

/-- The host hands over a path without a NUL. -/
theorem checkNames_of_noNul {path : Location} (noNul : ∀ name ∈ path, '\x00' ∉ name.toList) :
    checkNames path = .ok () := by
  rw [checkNames, if_neg]
  intro any
  obtain ⟨name, mem, nul⟩ := List.any_eq_true.mp any
  exact noNul name mem (by simpa using nul)

/-- A path that the host takes is short. -/
theorem checkLength_ok {path : Location} (taken : checkLength path = .ok ()) : pathBytes path < pathLimit := by
  refine Nat.not_le.mp fun long => ?_
  rw [checkLength, if_pos long] at taken
  cases taken

/-- A path is handed over before it is walked. -/
theorem locate_ok {last : LastLink} {path : Location} {place : Place} :
    tree.locate last path = .ok place ↔ checkNames path = .ok () ∧ checkLength path = .ok () ∧
      tree.Walks last place linkLimit [] path := by
  constructor
  · intro located
    rw [locate] at located
    obtain ⟨_, names, located⟩ := bind_eq_ok.mp located
    obtain ⟨_, length, located⟩ := bind_eq_ok.mp located
    refine ⟨names, length, walks_iff.mpr ?_⟩
    cases walked : tree.walk last linkLimit [] path with
    | error e =>
      rw [walked] at located
      cases located
    | ok reached =>
      rw [walked] at located
      cases located
      rfl
  · rintro ⟨names, length, walks⟩
    rw [locate, names, length, walks_iff.mp walks]
    rfl

/-- A path that the host takes leads where it is walked to. -/
theorem locate_of_walks {last : LastLink} {path : Location} {place : Place}
    (noNul : ∀ name ∈ path, '\x00' ∉ name.toList) (short : pathBytes path < pathLimit)
    (walks : tree.Walks last place linkLimit [] path) : tree.locate last path = .ok place :=
  locate_ok.mpr ⟨checkNames_of_noNul noNul, if_neg (Nat.not_le.mpr short), walks⟩

/-- A vacant place is in a directory, which has no entry of that name. -/
theorem locate_vacant {last : LastLink} {path holder : Location} {name : String}
    (located : tree.locate last path = .ok (.vacant holder name)) :
    ∃ entries, tree.at? holder = some (directory entries) ∧ Entries.find? name entries = none :=
  (locate_ok.mp located).2.2.vacant

/-- The node at the end of a path is the one at the location that the path leads to. -/
theorem stat_ok {path : Location} {node : FileTree} : tree.stat path = .ok node ↔
    ∃ location, tree.locate .follow path = .ok (.found location) ∧
      tree.at? location = some node := by
  constructor
  · intro asked
    rw [stat] at asked
    split at asked
    · cases asked
    · cases asked
    · next location located =>
      split at asked
      · next stands =>
        cases asked
        exact ⟨location, located, stands⟩
      · cases asked
  · rintro ⟨location, located, stands⟩
    rw [stat]
    simp only [located, stands]

/-- What is asked of a path is asked of the node that it leads to. -/
theorem stat_any {path : Location} {test : FileTree → Bool} :
    (tree.stat path).toOption.any test = true ↔
      ∃ location node, tree.locate .follow path = .ok (.found location) ∧
        tree.at? location = some node ∧ test node = true := by
  constructor
  · intro passed
    obtain ⟨node, asked, passed⟩ := (Option.any_eq_true _ _).mp passed
    obtain ⟨location, located, stands⟩ := stat_ok.mp (ok_of_toOption asked)
    exact ⟨location, node, located, stands, passed⟩
  · rintro ⟨location, node, located, stands, passed⟩
    rw [stat_ok.mpr ⟨location, located, stands⟩]
    exact passed

/-- A path is present when it leads to a location, a last link being what it leads to. -/
theorem present_iff {path : Location} : tree.present path = true ↔
    ∃ location, tree.locate .keep path = .ok (.found location) := by
  rw [present]
  constructor
  · intro there
    split at there
    · next location located => exact ⟨location, located⟩
    · cases there
  · rintro ⟨location, located⟩
    rw [located]

/-- A path leads to a directory when it leads to the location of one. -/
theorem pathIsDirectory_iff {path : Location} : tree.pathIsDirectory path = true ↔
    ∃ location entries, tree.locate .follow path = .ok (.found location) ∧
      tree.at? location = some (directory entries) := by
  rw [pathIsDirectory, stat_any]
  constructor
  · rintro ⟨location, node, located, stands, passed⟩
    cases node with
    | file bytes => cases passed
    | link target => cases passed
    | directory entries => exact ⟨location, entries, located, stands⟩
  · rintro ⟨location, entries, located, stands⟩
    exact ⟨location, _, located, stands, rfl⟩

/-- A path leads to a regular file when it leads to the location of one. -/
theorem pathIsRegular_iff {path : Location} : tree.pathIsRegular path = true ↔
    ∃ location bytes, tree.locate .follow path = .ok (.found location) ∧
      tree.at? location = some (file bytes) := by
  rw [pathIsRegular, stat_any]
  constructor
  · rintro ⟨location, node, located, stands, passed⟩
    cases node with
    | file bytes => exact ⟨location, bytes, located, stands⟩
    | link target => cases passed
    | directory entries => cases passed
  · rintro ⟨location, bytes, located, stands⟩
    exact ⟨location, _, located, stands, rfl⟩

/-- **A straight path leads to the location that it spells**, or nowhere. -/
theorem Straight.locate {path : Location} (straight : tree.Straight path) {last : LastLink}
    {place : Place} (located : tree.locate last path = .ok place) : place.location = path := by
  obtain ⟨names, -, walks⟩ := locate_ok.mp located
  exact straight.walks (checkNames_ok names) walks

/-- A leg over a straight path finds its end exactly when something is there and the host takes each name. -/
theorem leg_found_iff (last : LastLink) (here parts : Location)
    (straight : tree.Straight (here ++ parts)) (taken : ∀ name ∈ here, HostName name)
    (noNul : ∀ name ∈ parts, '\x00' ∉ name.toList) (stands : ∃ node, tree.at? here = some node) :
    tree.leg last here parts = .arrived (.found (here ++ parts)) ↔
      (∀ name ∈ parts, name.utf8ByteSize ≤ nameLimit) ∧
        ∃ node, tree.at? (here ++ parts) = some node := by
  induction parts generalizing here with
  | nil => simpa [leg] using stands
  | cons part rest ih =>
    have plain : PlainName part := straight.plain part (by simp)
    have next : here ++ part :: rest = (here ++ [part]) ++ rest := by simp
    obtain ⟨node, stands⟩ := stands
    cases node with
    | file bytes => simp [leg, stands, at?_append]
    | link target => simp [leg, stands, at?_append]
    | directory entries =>
      have stays : ¬ (part = "" ∨ part = ".") := fun h => h.elim plain.1 plain.2.1
      have named : ¬ (last = .create ∧ rest ≠ [] ∧ rest.all String.isEmpty) := by
        rintro ⟨-, more, blank⟩
        obtain ⟨name, others, rfl⟩ := List.exists_cons_of_ne_nil more
        have empty : name.isEmpty = true := List.all_eq_true.mp blank name List.mem_cons_self
        exact (straight.plain name (by simp)).1 (String.isEmpty_iff.mp empty)
      rw [leg, stands]
      simp only [if_neg stays, if_neg plain.2.2, if_neg named]
      by_cases long : nameLimit < part.utf8ByteSize
      · simp only [if_pos long, reduceCtorEq, false_iff]
        rintro ⟨short, -⟩
        exact Nat.not_le.mpr long (short part List.mem_cons_self)
      rw [if_neg long]
      have taken' : ∀ name ∈ here ++ [part], HostName name := by
        intro name mem
        rcases List.mem_append.mp mem with mem | mem
        · exact taken name mem
        · rw [List.mem_singleton.mp mem]
          exact ⟨Nat.le_of_not_lt long, noNul part List.mem_cons_self⟩
      have further := ih (here ++ [part]) (next ▸ straight) taken'
        fun name mem => noNul name (List.mem_cons_of_mem _ mem)
      have entry := at?_child stands part
      rw [next, List.forall_mem_cons, and_assoc, and_iff_right (Nat.le_of_not_lt long)]
      cases found : Entries.find? part entries with
      | none =>
        have missing : tree.at? (here ++ [part] ++ rest) = none :=
          at?_append_of_none (entry.trans found) rest
        rw [missing]
        cases rest <;> simp
      | some node =>
        have there : tree.at? (here ++ [part]) = some node := entry.trans found
        cases node with
        | link target =>
          exact absurd there
            (straight.linkFree _ (next ▸ List.prefix_append _ _) taken' target)
        | file bytes => exact further ⟨_, there⟩
        | directory inner => exact further ⟨_, there⟩

/-- **When a straight path leads to what it spells**: something is there, and the host takes the path. What is
done with a last link makes no difference. -/
theorem Straight.locate_found_iff {path : Location} (straight : tree.Straight path) {last : LastLink} :
    tree.locate last path = .ok (.found path) ↔
      (∀ name ∈ path, HostName name) ∧ pathBytes path < pathLimit ∧ ∃ node, tree.at? path = some node := by
  have found (noNul : ∀ name ∈ path, '\x00' ∉ name.toList) := leg_found_iff last [] path straight
    (fun _ h => nomatch h) noNul ⟨tree, at?_nil tree⟩
  rw [List.nil_append] at found
  constructor
  · intro located
    obtain ⟨names, length, walks⟩ := locate_ok.mp located
    have noNul := checkNames_ok names
    obtain ⟨sizes, there⟩ := (found noNul).mp (straight.arrives noNul walks)
    exact ⟨fun name mem => ⟨sizes name mem, noNul name mem⟩, checkLength_ok length, there⟩
  · rintro ⟨taken, short, there⟩
    have noNul : ∀ name ∈ path, '\x00' ∉ name.toList := fun name mem => (taken name mem).2
    have arrives := (found noNul).mpr ⟨fun name mem => (taken name mem).1, there⟩
    exact locate_of_walks noNul short (.arrives arrives)

/-- A straight path leads to a directory exactly when one is there and the host takes the path. -/
theorem Straight.pathIsDirectory_iff {path : Location} (straight : tree.Straight path) :
    tree.pathIsDirectory path = true ↔
      (∀ name ∈ path, HostName name) ∧ pathBytes path < pathLimit ∧
        tree.kindAt? path = some .directory := by
  rw [FileTree.pathIsDirectory_iff]
  constructor
  · rintro ⟨location, entries, located, stands⟩
    obtain rfl : location = path := straight.locate located
    obtain ⟨taken, short, -⟩ := straight.locate_found_iff.mp located
    exact ⟨taken, short, kindAt?_eq_directory.mpr ⟨entries, stands⟩⟩
  · rintro ⟨taken, short, isDirectory⟩
    obtain ⟨entries, stands⟩ := kindAt?_eq_directory.mp isDirectory
    exact ⟨path, entries, straight.locate_found_iff.mpr ⟨taken, short, _, stands⟩, stands⟩

end FileTree

end ConfinedShell
