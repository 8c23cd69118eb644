import BucketPlan.Proofs.Shape.Path

namespace BucketPlan

/-- The collections whose entries are rules of their own, by the members that lead to them. -/
def keyedCollections : List (List String) :=
  [["tags"], ["cors_rules"], ["lifecycle_rules"], ["replication", "rules"],
    ["notifications", "destinations"], ["inventory_rules"], ["intelligent_tiering_rules"]]

/-- The paths of these collections. -/
def keyedAreas : List String :=
  keyedCollections.map (".".intercalate ·)

/-- The path of a name below another path. -/
def pathBelow (path name : String) : String :=
  if path = "" then name else path ++ "." ++ name

/-- What follows a path and a dot in a longer path; nothing follows the path itself. -/
def afterPath? (base path : String) : Option String :=
  if path = base then some ""
  else ((base ++ ".").toList.isPrefixOf? path.toList).map String.ofList

namespace Place

/-- The place of a path that belongs to no entry: the area ends at the first dot. -/
def ofPath (path : String) : Place where
  area := String.ofList (path.toList.takeWhile (· ≠ '.'))
  field := String.ofList ((path.toList.dropWhile (· ≠ '.')).drop 1)

/-- The place of a path that is reported while an entry is read: within the entry, where the path goes
on from that of the entry. -/
def ofPathWithin (entry : Option (String × String)) (path : String) : Place :=
  match entry with
  | none => ofPath path
  | some (area, rule) =>
    match afterPath? (area ++ "." ++ rule) path with
    | some field => ⟨area, rule, field⟩
    | none => ofPath path

end Place

/-- A reading under way: the entry that is being read, as the path of its collection and its own name,
and what has been reported. Paths are plain texts, so that the entry has to be remembered. -/
structure Reader where
  entry : Option (String × String) := none
  log : Log := []

namespace Reader

def report (reader : Reader) (path message : String) : Reader :=
  { reader with log := reader.log ++ [(Place.ofPathWithin reader.entry path).violation message] }

def mistyped (reader : Reader) (path kind : String) (value : Value) : Reader :=
  reader.report path s!"expected {kind}, got {value.typeName}"

/-- Reads an entry, and goes back to whatever entry was being read before. -/
def within (reader : Reader) (area rule : String) (read : Reader → Reader) : Reader :=
  { read { reader with entry := some (area, rule) } with entry := reader.entry }

/-- Reads a part of a collection, which is an entry in its own right where the path says so. -/
def inside (reader : Reader) (path name : String) (read : Reader → Reader) : Reader :=
  if path ∈ keyedAreas then reader.within path name read else read reader

/-- Reads the parts of a collection one after the other. -/
def each (reader : Reader) (path : String) (read : String → Value → Reader → Reader)
    (parts : List (String × Value)) : Reader :=
  parts.foldl (fun reader (name, item) =>
    reader.inside path name (read (pathBelow path name) item)) reader

end Reader

/-- Reads a value at a path and reports where it has another form than its shape. -/
def Shape.walk : Shape → String → Value → Reader → Reader
  | text, path, value, reader =>
    if value.isStr then reader else reader.mistyped path "a string" value
  | integer, path, value, reader =>
    if value.int?.isSome then reader else reader.mistyped path "an integer" value
  | boolean, path, value, reader =>
    if value.bool?.isSome then reader else reader.mistyped path "a boolean" value
  | optional shape, path, value, reader =>
    if value.isNull then reader else shape.walk path value reader
  | unlessUntrue shape, path, value, reader =>
    if value.isTrue then shape.walk path value reader else reader
  | record members, path, value, reader =>
    if value.isMap then members.walk path value reader else reader.mistyped path "a mapping" value
  | member name shape others, path, value, reader =>
    others.walk path value (shape.walk (pathBelow path name) (value.get name) reader)
  | noMore, _, _, reader => reader
  | listOf shape, path, value, reader =>
    match value.sequence? with
    | some items => reader.each path shape.walk (Value.indexed items)
    | none => reader.mistyped path "a list" value
  | listOfEntries shape, path, value, reader =>
    match value.sequence? with
    | some items => reader.each path shape.walk (Value.indexed items)
    | none => reader.mistyped path "a list" value
  | oneOrMore shape, path, value, reader =>
    if shape.isSingle value then shape.walk (pathBelow path "0") value reader
    else match value.sequence? with
      | some items => (Value.indexed items).foldl
          (fun reader (i, item) => shape.walk (pathBelow path i) item reader) reader
      | none => reader.mistyped path "a list" value
  | fields shape, path, value, reader =>
    if value.isMap then reader.each path shape.walk value.namedEntries
    else reader.mistyped path "a mapping" value
  | entries shape, path, value, reader =>
    if value.isMap then reader.each path shape.walk value.namedEntries
    else reader.mistyped path "a mapping" value
  | pair first second members, path, value, reader =>
    match value.sequence? with
    | some [a, b] => members.walk path (.record [(first, a), (second, b)]) reader
    | some _ => reader.report path s!"expected a ({first}, {second}) pair"
    | none =>
      if value.isMap then members.walk path value reader else reader.mistyped path "a mapping" value

namespace Reader

variable {reader : Reader} {path name : String} {parts : List (String × Value)}

theorem entry_inside {read : Reader → Reader} (restores : ∀ reader, (read reader).entry = reader.entry) :
    (reader.inside path name read).entry = reader.entry := by
  unfold inside
  split
  · rfl
  · exact restores reader

/-- After any number of parts the reader is in the entry it was in before them. -/
theorem entry_each {read : String → Value → Reader → Reader}
    (restores : ∀ path item reader, (read path item reader).entry = reader.entry) :
    (reader.each path read parts).entry = reader.entry := by
  induction parts generalizing reader with
  | nil => rfl
  | cons part rest ih =>
    have first : (reader.inside path part.1 (read (pathBelow path part.1) part.2)).entry =
        reader.entry := entry_inside (restores _ _)
    rw [← first]
    exact ih

end Reader

/-- Whatever is read, and whether it has the right form or not, the reader is then back in the entry
that it was in before. -/
theorem Shape.entry_walk (shape : Shape) (path : String) (value : Value) (reader : Reader) :
    (shape.walk path value reader).entry = reader.entry := by
  induction shape generalizing path value reader with
  | text | integer | boolean =>
    unfold walk
    split <;> rfl
  | optional shape ih =>
    unfold walk
    split
    · rfl
    · exact ih path value reader
  | unlessUntrue shape ih =>
    unfold walk
    split
    · exact ih path value reader
    · rfl
  | record members ih =>
    unfold walk
    split
    · exact ih path value reader
    · rfl
  | member name shape others ihShape ihOthers =>
    unfold walk
    rw [ihOthers, ihShape]
  | noMore => rfl
  | listOf shape ih | listOfEntries shape ih =>
    unfold walk
    split
    · exact Reader.entry_each ih
    · rfl
  | oneOrMore shape ih =>
    unfold walk
    split
    · exact ih _ value reader
    · split
      · rename_i items _
        induction Value.indexed items generalizing reader with
        | nil => rfl
        | cons part rest again => exact (again _).trans (ih _ _ reader)
      · rfl
  | fields shape ih | entries shape ih =>
    unfold walk
    split
    · exact Reader.entry_each ih
    · rfl
  | pair first second members ih =>
    unfold walk
    split
    · exact ih path _ reader
    · rfl
    · split
      · exact ih path value reader
      · rfl

end BucketPlan
