import ConfinedShell.Host.Calls
import ConfinedShell.Proofs.Walk

/-!
# What a call has done

A call of the host that succeeds has found a place by a path and has done one thing there. For each call
there is a lemma that says which place that is and what has been done; by a straight path it is the
location which the path spells.
-/

set_option autoImplicit false

namespace ConfinedShell.FileTree

variable {tree after : FileTree} {path : Location}

/-! ## Calls on any path -/

/-- A file is opened for writing at the place that a path leads to, and no directory is. -/
theorem exists_place_of_writable {location : Location}
    (opened : tree.writableLocation path = .ok location) :
    (∃ place, tree.locate .create path = .ok place ∧ place.location = location) ∧
      ∀ entries, tree.at? location ≠ some (directory entries) := by
  rw [writableLocation] at opened
  split at opened
  · cases opened
  · next holder name located =>
    cases opened
    refine ⟨⟨_, located, rfl⟩, fun entries isDirectory => ?_⟩
    obtain ⟨others, stands, missing⟩ := locate_vacant located
    rw [at?_child stands, missing] at isDirectory
    cases isDirectory
  · next reached located =>
    split at opened
    · next bytes isFile =>
      cases opened
      refine ⟨⟨_, located, rfl⟩, fun entries isDirectory => ?_⟩
      rw [isFile] at isDirectory
      cases isDirectory
    · cases opened

/-- What is put where a file is opened for writing is there. -/
theorem at?_put_writable {location : Location} (opened : tree.writableLocation path = .ok location)
    (new : FileTree) : (tree.put location new).at? location = some new := by
  rw [writableLocation] at opened
  split at opened
  · cases opened
  · next holder name located =>
    cases opened
    obtain ⟨entries, stands, -⟩ := locate_vacant located
    exact at?_put_child stands name new
  · next reached located =>
    split at opened
    · next bytes isFile =>
      cases opened
      rcases List.eq_nil_or_concat location with rfl | ⟨holder, name, rfl⟩
      · rw [put, at?_nil]
      · rw [List.concat_eq_append] at isFile ⊢
        obtain ⟨entries, stands⟩ := directory_of_at?_append isFile (List.cons_ne_nil _ _)
        exact at?_put_child stands name new
    · cases opened

/-- A directory is made at a vacant place. -/
theorem exists_of_makeDirectory (made : tree.makeDirectory path = .ok after) :
    ∃ holder name, tree.locate .keep path = .ok (.vacant holder name) ∧
      after = tree.put (holder ++ [name]) (directory []) := by
  rw [makeDirectory] at made
  split at made
  · cases made
  · cases made
  · next holder name located =>
    cases made
    exact ⟨holder, name, located, rfl⟩

/-- An empty directory is removed, which is not the top. -/
theorem exists_of_removeDirectory (removed : tree.removeDirectory path = .ok after) :
    ∃ location, tree.locate .keep path = .ok (.found location) ∧ location ≠ [] ∧
      tree.at? location = some (directory []) ∧ after = tree.remove location := by
  rw [removeDirectory] at removed
  split at removed
  · cases removed
  · cases removed
  · next location located =>
    split at removed
    · cases removed
    next below =>
    split at removed
    · next empty =>
      cases removed
      exact ⟨location, located, fun top => below (by rw [top]; rfl), empty, rfl⟩
    · cases removed
    · cases removed

/-- What is removed as a file is no directory. -/
theorem exists_of_removeFile (removed : tree.removeFile path = .ok after) :
    ∃ location, tree.locate .keep path = .ok (.found location) ∧
      (∀ entries, tree.at? location ≠ some (directory entries)) ∧ after = tree.remove location := by
  rw [removeFile] at removed
  split at removed
  · cases removed
  · cases removed
  · next location located =>
    split at removed
    · cases removed
    · next noDirectory =>
      cases removed
      exact ⟨location, located, noDirectory, rfl⟩

/-- A copy takes the bytes of a file; of the same file nothing is left. -/
theorem exists_of_copied {source : Location} {bytes : Text.Bytes} (copied : tree.copied source path = .ok bytes) :
    ∃ origin held location, tree.locate .follow source = .ok (.found origin) ∧
      tree.at? origin = some (file held) ∧ tree.writableLocation path = .ok location ∧
      bytes = if location = origin then [] else held := by
  rw [FileTree.copied] at copied
  split at copied
  · cases copied
  · cases copied
  · next origin located =>
    split at copied
    · next held isFile =>
      obtain ⟨location, opened, rfl⟩ := map_eq_ok.mp copied
      exact ⟨origin, held, location, located, isFile, opened, rfl⟩
    · cases copied

/-! ## Bytes that are sent -/

/-- Without trouble bytes are sent as a file is written. -/
theorem sendBytes_none (tree : FileTree) (path : Location) (bytes : Text.Bytes) :
    tree.sendBytes none path bytes =
      match tree.writeFile path bytes with
      | .error cause => (tree, .error cause)
      | .ok after => (after, .ok ()) := by
  unfold sendBytes arriving
  cases tree.writeFile path bytes <;> rfl

/-- A name that is not too long is looked up in the entries. -/
theorem lookup_ok {entries : Entries} {name : String} {entry : Option FileTree}
    (looked : lookup entries name = .ok entry) :
    name.utf8ByteSize ≤ nameLimit ∧ Entries.find? name entries = entry := by
  rw [lookup] at looked
  split at looked
  · cases looked
  · next short => exact ⟨Nat.not_lt.mp short, Except.ok.inj looked⟩

/-- A path that is moved from or to has its last name in the directory that the path above leads to. -/
theorem exists_of_holderOf {holder : Location} {entries : Entries} {name : String}
    (held : tree.holderOf path = .ok (holder, entries, name)) :
    ∃ above, path = above ++ [name] ∧ pathBytes path < pathLimit ∧
      tree.Walks .follow (.found holder) linkLimit [] above ∧ tree.at? holder = some (directory entries) := by
  rw [holderOf] at held
  obtain ⟨_, length, held⟩ := bind_eq_ok.mp held
  split at held
  · cases held
  next last isLast =>
  obtain ⟨above, rfl⟩ := List.getLast?_eq_some_iff.mp isLast
  rw [List.dropLast_concat] at held
  split at held
  · cases held
  · cases held
  next reached walked =>
  split at held
  · next others stands =>
    cases held
    exact ⟨above, rfl, checkLength_ok length, walks_iff.mpr walked, stands⟩
  · cases held

/-- What is looked up there is what the path leads to, a last link being kept. -/
theorem locate_of_holderOf {holder : Location} {entries : Entries} {name : String} {entry : Option FileTree}
    (plain : ∀ other ∈ path, PlainName other) (taken : checkNames path = .ok ())
    (held : tree.holderOf path = .ok (holder, entries, name)) (looked : lookup entries name = .ok entry) :
    tree.locate .keep path = .ok (if entry.isSome then .found (holder ++ [name]) else .vacant holder name) := by
  obtain ⟨above, rfl, short, walks, stands⟩ := exists_of_holderOf held
  obtain ⟨fits, found⟩ := lookup_ok looked
  have last : PlainName name := plain name (by simp)
  have stays : ¬ (name = "" ∨ name = ".") := fun h => h.elim last.1 last.2.1
  refine locate_of_walks (checkNames_ok taken) short (walks.append (List.cons_ne_nil name []) nofun ?_)
  rw [leg, stands]
  simp only [if_neg stays, if_neg last.2.2, reduceCtorEq, false_and, if_false, if_neg (Nat.not_lt.mpr fits), found]
  cases entry with
  | none => rfl
  | some node => cases node <;> rfl

/-- **A node is renamed** from one location to another: it is gone from the one and set at the other, which is in a
directory. Neither location lies in the other, and what is replaced is of the same sort. -/
structure Renamed (before after : FileTree) (node : FileTree) (source target : Location) : Prop where
  found : before.at? source = some node
  holds : ∃ entries, before.at? target.dropLast = some (directory entries)
  result : after = (before.remove source).put target node
  notInto : ¬ source <+: target.dropLast
  notAbove : ¬ target <+: source.dropLast
  differ : source ≠ target
  fits : ∀ old, before.at? target = some old → checkReplace node old = .ok ()

/-- What is renamed is where the one path leads, and it goes where the other one leads. If both are one location,
nothing is done. -/
theorem exists_of_rename {source : Location} (fromPlain : ∀ name ∈ source, PlainName name)
    (toPlain : ∀ name ∈ path, PlainName name) (renamed : tree.rename source path = .ok after) :
    ∃ origin place, tree.locate .keep source = .ok (.found origin) ∧ tree.locate .keep path = .ok place ∧
      (place = .found origin ∧ after = tree ∨ ∃ node, Renamed tree after node origin place.location) := by
  simp only [rename, bind_eq_ok, Prod.exists] at renamed
  obtain ⟨_, fromTaken, _, toTaken, sourceHolder, sourceEntries, sourceName, fromHeld, holder,
    entries, name, toHeld, entry, looked, moved⟩ := renamed
  have fromLocated := locate_of_holderOf fromPlain fromTaken fromHeld looked
  obtain ⟨-, -, -, -, fromStands⟩ := exists_of_holderOf fromHeld
  obtain ⟨-, -, -, -, toStands⟩ := exists_of_holderOf toHeld
  cases entry with
  | none => cases moved
  | some node =>
    obtain ⟨old, lookedTo, moved⟩ := bind_eq_ok.mp moved
    have toLocated := locate_of_holderOf toPlain toTaken toHeld lookedTo
    refine ⟨_, _, fromLocated, toLocated, ?_⟩
    have target : (if old.isSome then Place.found (holder ++ [name]) else .vacant holder name).location =
        holder ++ [name] := by
      split <;> rfl
    rw [target]
    split at moved
    · cases moved
    next apart =>
    split at moved
    · cases moved
    next apart' =>
    split at moved
    · next same =>
      cases moved
      have there := (at?_child fromStands sourceName).trans (lookup_ok looked).2
      rw [same, at?_child toStands, (lookup_ok lookedTo).2] at there
      rw [there]
      exact .inl ⟨congrArg Place.found same.symm, rfl⟩
    next differ =>
    have foundOld := (lookup_ok lookedTo).2
    rw [← at?_child toStands] at foundOld
    refine .inr ⟨node,
      { found := (at?_child fromStands sourceName).trans (lookup_ok looked).2
        holds := ⟨entries, by rw [List.dropLast_concat]; exact toStands⟩
        result := ?_
        notInto := by
          rw [List.dropLast_concat]
          exact fun inside => apart (List.isPrefixOf_iff_prefix.mpr inside)
        notAbove := by
          rw [List.dropLast_concat]
          exact fun inside => apart' (List.isPrefixOf_iff_prefix.mpr inside)
        differ := differ
        fits := ?_ }⟩
    · cases old with
      | none =>
        cases moved
        rfl
      | some old =>
        obtain ⟨_, _, same⟩ := bind_eq_ok.mp moved
        cases same
        rfl
    · intro replaced there
      rw [foundOld] at there
      subst there
      obtain ⟨_, fits, _⟩ := bind_eq_ok.mp moved
      exact fits

/-! ## Calls on a straight path -/

/-- By a straight path that is the location which the path spells. -/
theorem writableLocation_ok {location : Location} (straight : tree.Straight path)
    (opened : tree.writableLocation path = .ok location) :
    location = path ∧ ∀ entries, tree.at? path ≠ some (directory entries) := by
  obtain ⟨⟨place, located, rfl⟩, noDirectory⟩ := exists_place_of_writable opened
  have spelt := straight.locate located
  exact ⟨spelt, spelt ▸ noDirectory⟩

/-- A file that is touched is opened, and keeps its bytes. -/
theorem exists_of_touchFile {trouble : Option Trouble} (touched : tree.touchFile path trouble = .ok after) :
    ∃ location, tree.writableLocation path = .ok location ∧
      after = tree.put location (file ((tree.bytesAt? location).getD [])) := by
  unfold touchFile at touched
  cases opened : tree.writableLocation path with
  | error cause =>
    rw [opened] at touched
    cases touched
  | ok location =>
    rw [opened] at touched
    split at touched
    · cases touched
    · cases touched
    · next same _ =>
      cases same
      cases touched
      exact ⟨location, rfl, rfl⟩

theorem touchFile_of_opened {location : Location} (opened : tree.writableLocation path = .ok location) :
    tree.touchFile path = .ok (tree.put location (file ((tree.bytesAt? location).getD []))) := by
  unfold touchFile
  rw [opened]

theorem touchFile_ok (straight : tree.Straight path) (touched : tree.touchFile path = .ok after) :
    after = tree.put path (file ((tree.bytesAt? path).getD [])) ∧
      ∀ entries, tree.at? path ≠ some (directory entries) := by
  obtain ⟨location, opened, rfl⟩ := exists_of_touchFile touched
  obtain ⟨rfl, noDirectory⟩ := writableLocation_ok straight opened
  exact ⟨rfl, noDirectory⟩

theorem makeDirectory_ok (straight : tree.Straight path)
    (made : tree.makeDirectory path = .ok after) :
    after = tree.put path (directory []) ∧ tree.at? path = none := by
  obtain ⟨holder, name, located, rfl⟩ := exists_of_makeDirectory made
  have spelt : holder ++ [name] = path := straight.locate located
  obtain ⟨entries, stands, missing⟩ := locate_vacant located
  rw [← spelt, at?_child stands, missing]
  exact ⟨rfl, rfl⟩

theorem removeDirectory_ok (straight : tree.Straight path)
    (removed : tree.removeDirectory path = .ok after) :
    after = tree.remove path ∧ tree.at? path = some (directory []) := by
  obtain ⟨location, located, -, empty, rfl⟩ := exists_of_removeDirectory removed
  obtain rfl : location = path := straight.locate located
  exact ⟨rfl, empty⟩

theorem removeFile_ok (straight : tree.Straight path)
    (removed : tree.removeFile path = .ok after) :
    after = tree.remove path ∧ ∀ entries, tree.at? path ≠ some (directory entries) := by
  obtain ⟨location, located, noDirectory, rfl⟩ := exists_of_removeFile removed
  obtain rfl : location = path := straight.locate located
  exact ⟨rfl, noDirectory⟩

theorem writeFile_put {bytes : Text.Bytes} (straight : tree.Straight path)
    (written : tree.writeFile path bytes = .ok after) :
    after = tree.put path (file bytes) ∧ ∀ entries, tree.at? path ≠ some (directory entries) := by
  obtain ⟨location, opened, rfl⟩ := map_eq_ok.mp written
  obtain ⟨rfl, noDirectory⟩ := writableLocation_ok straight opened
  exact ⟨rfl, noDirectory⟩

/-- A path that is moved from or to has its last name in a directory. -/
theorem holderOf_ok {holder : Location} {entries : Entries} {name : String}
    (straight : tree.Straight path) (taken : checkNames path = .ok ())
    (held : tree.holderOf path = .ok (holder, entries, name)) :
    path = holder ++ [name] ∧ tree.at? holder = some (directory entries) := by
  obtain ⟨above, rfl, -, walks, stands⟩ := exists_of_holderOf held
  have inside : above <+: above ++ [name] := List.prefix_append above [name]
  have spelt : holder = above :=
    (straight.above inside).walks (fun other mem => checkNames_ok taken other (inside.subset mem)) walks
  exact ⟨by rw [spelt], stands⟩

/-- A node is moved as a whole: it is gone from the one place and stands at the other one. Neither place
lies in the other, and what the node replaces is of its own sort. -/
theorem rename_ok {source destination : Location} (fromStraight : tree.Straight source)
    (toStraight : tree.Straight destination)
    (renamed : tree.rename source destination = .ok after) :
    after = tree ∨ ∃ node, tree.at? source = some node ∧
      after = (tree.remove source).put destination node ∧
      ¬ source <+: destination.dropLast ∧ ¬ destination <+: source.dropLast ∧
      source ≠ destination ∧
      ∀ old, tree.at? destination = some old → checkReplace node old = .ok () := by
  obtain ⟨origin, place, fromLocated, toLocated, outcome⟩ :=
    exists_of_rename fromStraight.plain toStraight.plain renamed
  obtain rfl : origin = source := fromStraight.locate fromLocated
  obtain rfl : place.location = destination := toStraight.locate toLocated
  rcases outcome with ⟨-, same⟩ | ⟨node, moved⟩
  · exact .inl same
  · exact .inr ⟨node, moved.found, moved.result, moved.notInto, moved.notAbove, moved.differ, moved.fits⟩

end ConfinedShell.FileTree
