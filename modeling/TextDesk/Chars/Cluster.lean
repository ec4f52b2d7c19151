import TextDesk.Chars.ClusterClass

/-! # Clusters

A text is cut into clusters, the pieces that a reader takes for one character each.  Whether a
character goes on with the cluster before it hangs on how the text before it ends, of which a few
facts are enough.  Main statements: the clusters of a text join to the text, and none is empty.
-/

namespace TextDesk

/-- How far the end of a text is with joining pictures. -/
inductive PictureEnd where
  /-- No picture is to be joined. -/
  | none
  /-- A picture, and perhaps marks behind it. -/
  | marked
  /-- A picture, perhaps marks, and a joiner. -/
  | joined
  deriving DecidableEq, Repr

/-- How far the end of a text is with linking consonants. -/
inductive ConsonantEnd where
  /-- No consonant is to be linked. -/
  | none
  /-- A consonant, and perhaps marks behind it. -/
  | marked
  /-- A consonant and marks, a linker among them. -/
  | linked
  deriving DecidableEq, Repr

/-- How a text ends, as far as the character behind it depends on that. -/
structure TextEnd where
  /-- The class of the last character. -/
  last : ClusterClass := .control
  /-- Whether an odd number of letters of flags stands last. -/
  oddFlags : Bool := false
  /-- The pictures at the end. -/
  picture : PictureEnd := .none
  /-- The consonants at the end. -/
  consonant : ConsonantEnd := .none

namespace TextEnd

/-- The pictures at the end, once another character has come. -/
def nextPicture (e : TextEnd) : ClusterClass → PictureEnd
  | .picture => .marked
  | .mark | .linker | .nonJoiner => if e.picture = .marked then .marked else .none
  | .joiner => if e.picture = .marked then .joined else .none
  | _ => .none

/-- The consonants at the end, once another character has come. -/
def nextConsonant (e : TextEnd) : ClusterClass → ConsonantEnd
  | .consonant => .marked
  | .mark | .joiner => e.consonant
  | .linker => if e.consonant = .none then .none else .linked
  | _ => .none

/-- How the text ends once another character has come. -/
def push (e : TextEnd) (next : ClusterClass) : TextEnd where
  last := next
  oddFlags := next == .flagLetter && !e.oddFlags
  picture := e.nextPicture next
  consonant := e.nextConsonant next

/-- Whether a character of the class stands alone whatever is before or behind it, apart from a line
feed behind a carriage return. -/
def standsAlone : ClusterClass → Bool
  | .carriageReturn | .lineFeed | .control => true
  | _ => false

/-- Whether two Korean letters or syllables belong to one syllable. -/
def sameSyllable : ClusterClass → ClusterClass → Bool
  | .initialJamo, .initialJamo | .initialJamo, .vowelJamo | .initialJamo, .openSyllable
  | .initialJamo, .closedSyllable => true
  | .openSyllable, .vowelJamo | .openSyllable, .finalJamo | .vowelJamo, .vowelJamo
  | .vowelJamo, .finalJamo => true
  | .closedSyllable, .finalJamo | .finalJamo, .finalJamo => true
  | _, _ => false

/-- Whether a character of the class goes on with the cluster at the end of the text. -/
def joins (e : TextEnd) (next : ClusterClass) : Bool :=
  if standsAlone e.last || standsAlone next then
    e.last == .carriageReturn && next == .lineFeed
  else if e.last = .leading then true
  else
    match next with
    | .mark | .linker | .nonJoiner | .joiner | .spacingMark => true
    | .consonant => e.consonant == .linked
    | .picture => e.picture == .joined
    | .flagLetter => e.oddFlags
    | _ => sameSyllable e.last next

end TextEnd

/-- Cuts a text behind the given end: what goes on with the cluster there, and the clusters that
follow. -/
def cutClusters (e : TextEnd) : List Char → List Char × List (List Char)
  | [] => ([], [])
  | c :: s =>
    let next := clusterClass c
    let (rest, later) := cutClusters (e.push next) s
    if e.joins next then (c :: rest, later) else ([], (c :: rest) :: later)

/-- The clusters of a text, in order. -/
def clusters (s : List Char) : List (List Char) := (cutClusters {} s).2

/-- Cutting loses nothing. -/
theorem cutClusters_append (e : TextEnd) (s : List Char) :
    (cutClusters e s).1 ++ (cutClusters e s).2.flatten = s := by
  induction s generalizing e with
  | nil => rfl
  | cons c s ih =>
    have hrest := ih (e.push (clusterClass c))
    simp only [cutClusters]
    split <;> simpa using hrest

/-- No cluster is empty. -/
theorem nil_notMem_cutClusters (e : TextEnd) (s : List Char) : [] ∉ (cutClusters e s).2 := by
  induction s generalizing e with
  | nil => simp [cutClusters]
  | cons c s ih =>
    have hrest := ih (e.push (clusterClass c))
    simp only [cutClusters]
    split <;> simpa using hrest

/-- Nothing goes on with a cluster before the start of a text. -/
theorem joins_start (next : ClusterClass) : ({} : TextEnd).joins next = false := by
  cases next <;> rfl

/-- The clusters of a text join to the text. -/
theorem flatten_clusters (s : List Char) : (clusters s).flatten = s := by
  have hcut := cutClusters_append {} s
  have hfirst : (cutClusters {} s).1 = [] := by
    cases s with
    | nil => rfl
    | cons c s => simp [cutClusters, joins_start]
  rwa [hfirst, List.nil_append] at hcut

/-- No cluster of a text is empty. -/
theorem nil_notMem_clusters (s : List Char) : [] ∉ clusters s := nil_notMem_cutClusters {} s

example : (clusters "e\u0301x".toList).map List.length = [2, 1] := by decide +kernel
example : (clusters "🇩🇪🇫👩\u200d👧".toList).map List.length = [2, 1, 3] := by decide +kernel
example : (clusters "क\u094dषक\u200c\u094dष".toList).map List.length = [3, 3, 1] := by decide +kernel

end TextDesk
