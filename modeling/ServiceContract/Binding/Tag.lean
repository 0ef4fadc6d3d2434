import ServiceContract.Text.Blank
import ServiceContract.Text.Pieces

/-!
# Tags

A tag is a key with a value, written `key:"value"`. A fragment is a text of tags with blanks
between them. The value is kept as it is written: a backslash takes the next character with it,
so an escaped quote does not end the value, and neither is decoded.

* `Tag.parseFragment`: the tags of a fragment, or the first fault.
* `TagSet.push`: adds a tag unless its key is there already.
-/

namespace ServiceContract.Binding

/-- A key and a value. -/
structure Tag where
  key : String
  value : String
  deriving DecidableEq, Repr, Inhabited

/-- A tag as it is written. -/
def Tag.render (t : Tag) : String :=
  t.key ++ ":\"" ++ t.value ++ "\""

/-- Why a fragment is refused, with the text from there on. -/
inductive FragmentFault where
  | expectedPair (rest : String)
  | missingSeparator (rest : String)
  deriving DecidableEq, Repr

/-- The words for a fault. -/
def FragmentFault.message : FragmentFault → String
  | .expectedPair rest => "expected key:\"value\" at '" ++ rest ++ "'"
  | .missingSeparator rest => "missing separator before '" ++ rest ++ "'"

namespace Tag

/-- A character of a key after its first: a letter, a digit, or one of `_`, `.`, `-`. -/
def isKeyChar (c : Char) : Bool :=
  Text.isIdentifierChar c || c == '.' || c == '-'

/-- The key at the start of a text, and what follows it. -/
def scanKey? (cs : List Char) : Option (List Char × List Char) :=
  match cs with
  | [] => none
  | c :: rest =>
    if Text.isIdentifierStart c then
      some (c :: rest.takeWhile isKeyChar, rest.dropWhile isKeyChar)
    else none

/-- The value up to its closing quote, and what follows the quote. A backslash must be followed
by a character other than a line break. -/
def scanValue? : List Char → Option (List Char × List Char)
  | [] => none
  | '"' :: rest => some ([], rest)
  | ['\\'] => none
  | '\\' :: c :: rest =>
    if c = '\n' then none
    else (scanValue? rest).map fun (v, rest) => ('\\' :: c :: v, rest)
  | c :: rest => (scanValue? rest).map fun (v, rest) => (c :: v, rest)

/-- The tag at the start of a text, and what follows it. -/
def scan? (cs : List Char) : Option (Tag × List Char) := do
  let (key, rest) ← scanKey? cs
  match rest with
  | ':' :: '"' :: rest =>
    let (value, rest) ← scanValue? rest
    return (⟨String.ofList key, String.ofList value⟩, rest)
  | _ => none

theorem length_scanValue? {cs v rest : List Char} (h : scanValue? cs = some (v, rest)) :
    rest.length < cs.length := by
  fun_induction scanValue? cs generalizing v rest with
  | case1 => simp at h
  | case2 => simp_all
  | case3 => simp at h
  | case4 => simp at h
  | case5 c tail _ ih =>
    obtain ⟨⟨w, r⟩, hw, he⟩ := Option.map_eq_some_iff.1 h
    obtain ⟨-, rfl⟩ := Prod.mk.inj he
    have := ih hw
    simp only [List.length_cons]
    omega
  | case6 c tail _ _ _ ih =>
    obtain ⟨⟨w, r⟩, hw, he⟩ := Option.map_eq_some_iff.1 h
    obtain ⟨-, rfl⟩ := Prod.mk.inj he
    have := ih hw
    simp only [List.length_cons]
    omega

theorem length_scanKey? {cs k rest : List Char} (h : scanKey? cs = some (k, rest)) :
    rest.length < cs.length := by
  unfold scanKey? at h
  split at h
  · simp at h
  · split at h
    · obtain ⟨-, rfl⟩ := Prod.mk.inj (Option.some.inj h)
      rename_i c tail _
      have := (List.dropWhile_suffix (l := tail) isKeyChar).length_le
      simp only [List.length_cons]
      omega
    · simp at h

/-- A scanned tag takes at least one character. -/
theorem length_scan? {cs rest : List Char} {t : Tag} (h : scan? cs = some (t, rest)) :
    rest.length < cs.length := by
  simp only [scan?, Option.bind_eq_bind, Option.bind_eq_some_iff] at h
  obtain ⟨⟨k, r⟩, hk, h⟩ := h
  have h1 := length_scanKey? hk
  split at h
  · obtain ⟨⟨v, r'⟩, hv, h⟩ := Option.bind_eq_some_iff.1 h
    have h2 := length_scanValue? hv
    obtain ⟨-, rfl⟩ := Prod.mk.inj (Option.some.inj h)
    simp_all only [List.length_cons]
    omega
  · simp at h

/-- The tags from here on, where no blank comes first. -/
def parseFrom (cs : List Char) : Except FragmentFault (List Tag) :=
  if cs.isEmpty then .ok []
  else
    match _h : scan? cs with
    | none => .error (.expectedPair (String.ofList cs))
    | some (tag, tail) =>
      if tail.head?.any (!Text.isBlank ·) then
        .error (.missingSeparator (String.ofList tail))
      else do return tag :: (← parseFrom (Text.trimStart tail))
termination_by cs.length
decreasing_by
  have h1 := length_scan? _h
  have h2 := (List.dropWhile_suffix (l := tail) Text.isBlank).length_le
  simp only [Text.trimStart]
  omega

/-- The tags of a fragment. -/
def parseFragment (fragment : String) : Except FragmentFault (List Tag) :=
  parseFrom (Text.trimStart fragment.toList)

end Tag

/-- Tags with distinct keys, in order. -/
structure TagSet where
  tags : List Tag := []
  deriving DecidableEq, Repr, Inhabited

namespace TagSet

/-- The value of a key. -/
def get? (s : TagSet) (key : String) : Option String :=
  (s.tags.find? (·.key == key)).map (·.value)

/-- Adds a tag at the end; a tag whose key is there already is given back. -/
def push (s : TagSet) (t : Tag) : Except Tag TagSet :=
  if (s.get? t.key).isSome then .error t else .ok ⟨s.tags ++ [t]⟩

/-- The number of tags. -/
def size (s : TagSet) : Nat :=
  s.tags.length

/-- Whether there is no tag. -/
def isEmpty (s : TagSet) : Bool :=
  s.tags.isEmpty

/-- The tags as they are written, with a space between them. -/
def render (s : TagSet) : String :=
  " ".intercalate (s.tags.map Tag.render)

end TagSet

end ServiceContract.Binding
