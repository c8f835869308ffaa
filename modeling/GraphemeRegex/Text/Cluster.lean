import GraphemeRegex.Text.Basic
import GraphemeRegex.Unicode.ClusterTables
import GraphemeRegex.Unicode.GraphemeExtend

/-! # Grapheme clusters — what a reader takes for one character

Texts are cut into extended grapheme clusters by the rules of Unicode 17.0. Whether a scalar joins
the cluster before it depends on that cluster alone, so the cutting is one pass that remembers how
the current cluster ends (`ClusterEnd`).

* `Text.clusters`: the clusters of a text, in order.
* `Text.takeCluster`: the first cluster and what follows it.
* `Text.isBoundary`: whether an offset lies between two clusters of the whole text.
-/

namespace GraphemeRegex

/-! ## Classes of scalars -/

/-- What the cluster rules see of a scalar. -/
inductive ClusterClass where
  | carriageReturn
  | lineFeed
  | control
  | extend
  | linker
  | joiner
  | nonJoiner
  | regional
  | prepending
  | spacingMark
  | hangulL
  | hangulV
  | hangulT
  | hangulLV
  | hangulLVT
  | pictograph
  | consonant
  | other
  deriving DecidableEq, Repr

namespace ClusterClass

/-- The class of the conjoining and precomposed Hangul scalars, by their code points. -/
def ofHangul? (n : Nat) : Option ClusterClass :=
  if 0x1100 ≤ n ∧ n ≤ 0x115F ∨ 0xA960 ≤ n ∧ n ≤ 0xA97C then some .hangulL
  else if 0x1160 ≤ n ∧ n ≤ 0x11A7 ∨ 0xD7B0 ≤ n ∧ n ≤ 0xD7C6 then some .hangulV
  else if 0x11A8 ≤ n ∧ n ≤ 0x11FF ∨ 0xD7CB ≤ n ∧ n ≤ 0xD7FB then some .hangulT
  -- one precomposed syllable in 28 has no final consonant
  else if 0xAC00 ≤ n ∧ n ≤ 0xD7A3 then
    some (if (n - 0xAC00) % 28 = 0 then .hangulLV else .hangulLVT)
  else if n = 0x16D63 ∨ 0x16D67 ≤ n ∧ n ≤ 0x16D6A then some .hangulV
  else none

/-- The class of a scalar beyond ASCII, from the tables. -/
def ofTables (c : Char) : ClusterClass :=
  if Unicode.clusterControl.contains c then .control
  -- linkers and joiners extend a cluster, too, so they are told apart first
  else if Unicode.conjunctLinker.contains c then .linker
  else if c = '\u200d' then .joiner
  else if c = '\u200c' then .nonJoiner
  else if Unicode.graphemeExtend.contains c then .extend
  -- the skin tones
  else if 0x1F3FB ≤ c.toNat ∧ c.toNat ≤ 0x1F3FF then .extend
  else if 0x1F1E6 ≤ c.toNat ∧ c.toNat ≤ 0x1F1FF then .regional
  else if Unicode.prepending.contains c then .prepending
  else if Unicode.spacingMark.contains c then .spacingMark
  else if Unicode.pictographic.contains c then .pictograph
  else if Unicode.conjunctConsonant.contains c then .consonant
  else (ofHangul? c.toNat).getD .other

/-- The class of a scalar. -/
def ofChar (c : Char) : ClusterClass :=
  if c = '\r' then .carriageReturn
  else if c = '\n' then .lineFeed
  else if c.toNat < 0x20 then .control
  else if c.toNat < 0x7F then .other
  else ofTables c

end ClusterClass

/-! ## How clusters grow -/

/-- How the current cluster ends, as far as the next scalar can tell. -/
inductive ClusterEnd where
  /-- Only marks can join. -/
  | plain
  | carriageReturn
  /-- Nothing can join. -/
  | control
  | prepending
  | hangulL
  | hangulV
  | hangulT
  /-- A regional indicator without a partner. -/
  | regional
  /-- A pictograph and its extenders. -/
  | pictograph
  /-- A pictograph, its extenders and one joiner. -/
  | joinedPictograph
  /-- A consonant and its extenders, none of them a linker. -/
  | consonant
  /-- A consonant and its extenders, at least one of them a linker. -/
  | linkedConsonant
  deriving DecidableEq, Repr

namespace ClusterEnd

/-- The end of a cluster that holds only a scalar of this class. -/
def start : ClusterClass → ClusterEnd
  | .carriageReturn => .carriageReturn
  | .lineFeed | .control => .control
  | .prepending => .prepending
  | .hangulL => .hangulL
  | .hangulV | .hangulLV => .hangulV
  | .hangulT | .hangulLVT => .hangulT
  | .regional => .regional
  | .pictograph => .pictograph
  | .consonant => .consonant
  | .extend | .linker | .joiner | .nonJoiner | .spacingMark | .other => .plain

/-- Whether a scalar of class `c` joins a cluster that ends like this. -/
def joins (e : ClusterEnd) (c : ClusterClass) : Bool :=
  match e, c with
  | .carriageReturn, .lineFeed => true
  | .carriageReturn, _ | .control, _ => false
  | _, .carriageReturn | _, .lineFeed | _, .control => false
  -- marks join whatever they follow, unless a line ends there
  | _, .extend | _, .linker | _, .joiner | _, .nonJoiner | _, .spacingMark => true
  | .prepending, _ => true
  | .hangulL, .hangulL | .hangulL, .hangulV | .hangulL, .hangulLV | .hangulL, .hangulLVT => true
  | .hangulV, .hangulV | .hangulV, .hangulT | .hangulT, .hangulT => true
  | .joinedPictograph, .pictograph => true
  | .linkedConsonant, .consonant => true
  | .regional, .regional => true
  | _, _ => false

/-- The end of the cluster after a scalar of class `c` has joined it. -/
def grow (e : ClusterEnd) (c : ClusterClass) : ClusterEnd :=
  match e, c with
  -- a third regional indicator begins a pair of its own
  | .regional, .regional => .plain
  | .pictograph, .extend | .pictograph, .linker | .pictograph, .nonJoiner => .pictograph
  | .pictograph, .joiner => .joinedPictograph
  | .consonant, .extend | .consonant, .joiner => .consonant
  | .consonant, .linker => .linkedConsonant
  | .linkedConsonant, .extend | .linkedConsonant, .joiner | .linkedConsonant, .linker =>
    .linkedConsonant
  | _, c => start c

end ClusterEnd

/-! ## Cutting a text -/

namespace Text

/-- What still joins a cluster with the given end, and what does not. -/
def growCluster (e : ClusterEnd) : Text → Text × Text
  | [] => ([], [])
  | c :: rest =>
    if e.joins (.ofChar c) then
      let (joined, left) := growCluster (e.grow (.ofChar c)) rest
      (c :: joined, left)
    else ([], c :: rest)

/-- The first cluster of a text and what follows it; both are empty for the empty text. -/
def takeCluster : Text → Text × Text
  | [] => ([], [])
  | c :: rest =>
    let (joined, left) := growCluster (.start (.ofChar c)) rest
    (c :: joined, left)

/-- What still joins a cluster with the given end, and the clusters after it. -/
def splitClusters (e : ClusterEnd) : Text → Text × List Text
  | [] => ([], [])
  | c :: rest =>
    if e.joins (.ofChar c) then
      let (joined, later) := splitClusters (e.grow (.ofChar c)) rest
      (c :: joined, later)
    else
      let (joined, later) := splitClusters (.start (.ofChar c)) rest
      ([], (c :: joined) :: later)

/-- The clusters of a text, in order. -/
def clusters : Text → List Text
  | [] => []
  | c :: rest =>
    let (joined, later) := splitClusters (.start (.ofChar c)) rest
    (c :: joined) :: later

/-- The clusters of a text with the offsets at which they start. -/
def clusterIndices (text : Text) : List (Nat × Text) :=
  (text.start.along text.clusters).map Position.offset |>.zip text.clusters

/-- The offsets between clusters, with 0 and the length. -/
def boundaries (text : Text) : List Nat :=
  (text.start.along text.clusters).map Position.offset

/-- Whether an offset lies between two clusters of the whole text or at one of its ends. -/
def isBoundary (text : Text) (offset : Nat) : Bool :=
  text.boundaries.contains offset

/-- Whether a text is exactly one cluster. -/
def isCluster (text : Text) : Bool :=
  text.clusters.length == 1

end Text

/-- The next cluster and the position behind it; what lies before is not looked at. -/
def Position.nextCluster? (p : Position) : Option (Text × Position) :=
  match p.rest with
  | [] => none
  | c :: rest =>
    let (cluster, left) := Text.takeCluster (c :: rest)
    some (cluster, ⟨p.offset + Text.byteLength cluster, left⟩)

namespace Text

/-! ## The two ways of cutting agree -/

theorem growCluster_append (e : ClusterEnd) (text : Text) :
    (growCluster e text).1 ++ (growCluster e text).2 = text := by
  induction text generalizing e with
  | nil => rfl
  | cons c rest ih =>
    rw [growCluster]
    split
    · simpa using ih _
    · rfl

theorem splitClusters_eq (e : ClusterEnd) (text : Text) :
    splitClusters e text = ((growCluster e text).1, clusters (growCluster e text).2) := by
  induction text generalizing e with
  | nil => rfl
  | cons c rest ih =>
    rw [splitClusters, growCluster]
    split
    · simp [ih]
    · rw [ih, clusters, ih]

/-- The clusters are the first one and the clusters of what follows it. -/
theorem clusters_cons (c : Char) (rest : Text) :
    clusters (c :: rest) =
      (takeCluster (c :: rest)).1 :: clusters (takeCluster (c :: rest)).2 := by
  rw [clusters, takeCluster, splitClusters_eq]

theorem takeCluster_append (text : Text) : (takeCluster text).1 ++ (takeCluster text).2 = text := by
  cases text with
  | nil => rfl
  | cons c rest => simpa [takeCluster] using growCluster_append _ rest

end Text

end GraphemeRegex
