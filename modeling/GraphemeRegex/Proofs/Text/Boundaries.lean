import GraphemeRegex.Proofs.Text.Reach

/-! # Boundaries — stepping from cluster to cluster

The clusters of what follows a boundary are those of the whole text, so whoever consumes whole
clusters, or texts that end at boundaries, goes from boundary to boundary.

* `Text.Between`: a position lies between two clusters of a text or at one of its ends.
* `Text.between_iff`: these are the positions whose offsets are the boundaries.
* `Text.Between.nextCluster?`: the next cluster ends at a boundary of the whole text.
* `Text.clusters_flatten`: cutting a text into clusters loses nothing.
* `Text.Between.clusters_eq_append`: the clusters between two boundaries are those of the text in
  between.
-/

namespace GraphemeRegex

namespace Position

variable {P p q : Position} {cluster : Text}

/-- Skipping the scalars of a text that comes next leads behind it. -/
theorem skip_eq_of_rest {text more : Text} (h : p.rest = text ++ more) :
    p.skip text.length = ⟨p.offset + Text.byteLength text, more⟩ := by
  have taken : p.rest.take text.length = text := by rw [h, List.take_left]
  have left : p.rest.drop text.length = more := by rw [h, List.drop_left]
  rw [skip, taken, left]

/-- The first position is one of those along any texts. -/
theorem mem_along_self (P : Position) (units : List Text) : P ∈ P.along units := by
  cases units with
  | nil => exact List.mem_singleton.2 rfl
  | cons unit units => exact List.mem_cons_self

/-- One of the positions along some texts is behind the first of them. -/
theorem mem_along_append {taken units : List Text} (h : P.rest = (taken ++ units).flatten) :
    (⟨P.offset + Text.byteLength taken.flatten, units.flatten⟩ : Position) ∈
      P.along (taken ++ units) := by
  induction taken generalizing P with
  | nil =>
    have here : P = ⟨P.offset + Text.byteLength [], units.flatten⟩ :=
      congrArg (Position.mk P.offset) h
    rw [List.flatten_nil, ← here]
    exact mem_along_self P units
  | cons unit taken ih =>
    rw [List.cons_append, along]
    apply List.mem_cons_of_mem
    -- skipping the first text leads to where the others begin
    have behind : P.skip unit.length =
        ⟨P.offset + Text.byteLength unit, (taken ++ units).flatten⟩ := skip_eq_of_rest h
    have later := ih (P := P.skip unit.length) (congrArg Position.rest behind)
    rw [behind] at later ⊢
    rw [List.flatten_cons, Text.byteLength_append, ← Nat.add_assoc]
    exact later

/-- The positions between clusters are the first one and those behind the first cluster, which
leaves less of the text. -/
theorem along_clusters_of_cons {c : Char} {rest : Text} (h : P.rest = c :: rest) :
    ∃ Q, P.nextCluster? = some ((Text.takeCluster P.rest).1, Q) ∧
      Q.rest.length < P.rest.length ∧ P.along P.rest.clusters = P :: Q.along Q.rest.clusters := by
  have split : P.rest = (Text.takeCluster P.rest).1 ++ (Text.takeCluster P.rest).2 :=
    (Text.takeCluster_append P.rest).symm
  have behind := skip_eq_of_rest split
  have next : P.nextCluster? =
      some ((Text.takeCluster P.rest).1, P.skip (Text.takeCluster P.rest).1.length) := by
    rw [behind, nextCluster?, h]
  refine ⟨_, next, ?_, ?_⟩
  · have between := after?_of_nextCluster? next
    have whole := congrArg List.length (after?_eq_some_iff.1 between.1).1
    -- the first cluster is not empty
    have filled := List.length_pos_of_ne_nil between.2
    rw [List.length_append] at whole
    omega
  · rw [h, Text.clusters_cons, along, ← h, behind]

/-- From one position between clusters, the next cluster leads to another. -/
theorem mem_along_of_nextCluster? (mem : p ∈ P.along P.rest.clusters)
    (next : p.nextCluster? = some (cluster, q)) : q ∈ P.along P.rest.clusters := by
  -- induction on the text that is left, one cluster at a time
  induction size : P.rest.length using Nat.strongRecOn generalizing P with
  | ind n ih =>
    cases text : P.rest with
    | nil =>
      rw [text] at mem
      have here : p = P := List.mem_singleton.1 mem
      rw [here, nextCluster?, text] at next
      cases next
    | cons c rest =>
      obtain ⟨Q, first, shorter, split⟩ := along_clusters_of_cons text
      rw [← text, split]
      rw [split] at mem
      apply List.mem_cons_of_mem
      rcases List.mem_cons.1 mem with here | later
      · subst here
        rw [first, Option.some.injEq, Prod.mk.injEq] at next
        rw [← next.2]
        exact mem_along_self Q _
      · exact ih Q.rest.length (size ▸ shorter) later rfl

/-- Every position between clusters is reached, by induction on what is left of the text. -/
theorem reaches_of_mem_along (mem : p ∈ P.along P.rest.clusters) : P.Reaches p := by
  induction size : P.rest.length using Nat.strongRecOn generalizing P with
  | ind n ih =>
    cases text : P.rest with
    | nil =>
      rw [text] at mem
      have here : p = P := List.mem_singleton.1 mem
      exact here ▸ .refl P
    | cons c rest =>
      obtain ⟨Q, first, shorter, split⟩ := along_clusters_of_cons text
      rw [split] at mem
      rcases List.mem_cons.1 mem with here | later
      · exact here ▸ .refl P
      · -- behind the first cluster
        have step : P.Reaches Q := ⟨_, (after?_of_nextCluster? first).1⟩
        have onward : Q.Reaches p := ih Q.rest.length (size ▸ shorter) later rfl
        exact step.trans onward

end Position

/-! ## Positions between clusters -/

namespace Text

variable {text cluster : Text} {p q : Position}

/-- The position lies between two clusters of the text or at one of its ends. -/
def Between (text : Text) (p : Position) : Prop :=
  p ∈ text.start.along text.clusters

/-- Each position between clusters is one of the text. -/
theorem Between.reaches (h : text.Between p) : text.start.Reaches p :=
  Position.reaches_of_mem_along h

/-- The positions between clusters are those whose offsets are boundaries. -/
theorem between_iff (h : text.start.Reaches p) : text.Between p ↔ p.offset ∈ text.boundaries := by
  constructor
  · intro between
    exact List.mem_map_of_mem between
  · intro boundary
    obtain ⟨q, between, same⟩ := List.mem_map.1 boundary
    -- a text has one position at each offset
    have atQ : text.positionAt? p.offset = some q :=
      positionAt?_eq_some_iff.2 ⟨Between.reaches between, same⟩
    have atP : text.positionAt? p.offset = some p := positionAt?_eq_some_iff.2 ⟨h, rfl⟩
    have here : q = p := Option.some.inj (atQ.symm.trans atP)
    exact here ▸ between

/-- From a boundary, the next cluster of what is left ends at a boundary of the whole text. -/
theorem Between.nextCluster? (h : text.Between p) (next : p.nextCluster? = some (cluster, q)) :
    text.Between q :=
  Position.mem_along_of_nextCluster? h next

/-- From a boundary, several clusters end at a boundary of the whole text. -/
theorem Between.nextClusters? {taken found : Text} {count : Nat} (h : text.Between p)
    (next : Position.nextClusters? taken count p = some (found, q)) : text.Between q := by
  induction count generalizing taken p with
  | zero =>
    rw [Position.nextClusters?, Option.some.injEq, Prod.mk.injEq] at next
    exact next.2 ▸ h
  | succ count ih =>
    rw [Position.nextClusters?] at next
    cases first : p.nextCluster? with
    | none =>
      rw [first] at next
      cases next
    | some pair =>
      obtain ⟨cluster, middle⟩ := pair
      rw [first] at next
      exact ih (h.nextCluster? first) next

/-! ## What the clusters are made of -/

/-- What joins the end of a cluster and the clusters behind it are the text. -/
theorem splitClusters_append (e : ClusterEnd) (text : Text) :
    (splitClusters e text).1 ++ (splitClusters e text).2.flatten = text := by
  induction text generalizing e with
  | nil => rfl
  | cons c rest ih =>
    rw [splitClusters]
    split
    · exact congrArg (c :: ·) (ih _)
    · exact congrArg (c :: ·) (ih _)

/-- Cutting a text into clusters loses nothing. -/
theorem clusters_flatten (text : Text) : text.clusters.flatten = text := by
  cases text with
  | nil => rfl
  | cons c rest => exact congrArg (c :: ·) (splitClusters_append _ rest)

/-- A cluster begins with a scalar. -/
theorem ne_nil_of_mem_splitClusters {e : ClusterEnd}
    (h : cluster ∈ (splitClusters e text).2) : cluster ≠ [] := by
  induction text generalizing e with
  | nil => exact absurd h List.not_mem_nil
  | cons c rest ih =>
    rw [splitClusters] at h
    split at h
    · exact ih h
    · rcases List.mem_cons.1 h with first | later
      · exact first ▸ List.cons_ne_nil _ _
      · exact ih later

theorem ne_nil_of_mem_clusters (h : cluster ∈ text.clusters) : cluster ≠ [] := by
  cases text with
  | nil => exact absurd h List.not_mem_nil
  | cons c rest =>
    rcases List.mem_cons.1 h with first | later
    · exact first ▸ List.cons_ne_nil _ _
    · exact ne_nil_of_mem_splitClusters later

/-- The position behind some of the clusters lies between two clusters. -/
theorem between_of_clusters {taken units : List Text} (h : text.clusters = taken ++ units) :
    text.Between ⟨byteLength taken.flatten, units.flatten⟩ := by
  have whole : text.start.rest = (taken ++ units).flatten := by
    rw [← h, clusters_flatten]
    rfl
  have mem := Position.mem_along_append whole
  rw [start, Nat.zero_add, ← h] at mem
  exact mem

/-- No offset of a position lies behind the end of the text. -/
theorem offset_le_byteLength (h : text.start.Reaches p) : p.offset ≤ text.byteLength := by
  obtain ⟨taken, between⟩ := h
  have split := (Position.after?_eq_some_iff.1 between).1
  have size := (Position.after?_eq_some_iff.1 between).2
  have whole : text.byteLength = byteLength taken + byteLength p.rest := by
    rw [← byteLength_append, ← split]
    rfl
  have first : p.offset = byteLength taken := by
    rw [size]
    exact Nat.zero_add _
  omega

/-- Every boundary has a position. -/
theorem isSome_positionAt?_of_mem {n : Nat} (h : n ∈ text.boundaries) :
    (text.positionAt? n).isSome := by
  obtain ⟨p, between, here⟩ := List.mem_map.1 h
  rw [positionAt?_eq_some_iff.2 ⟨Between.reaches between, here⟩]
  rfl

end Text

/-- Moving forward does not make the offset smaller. -/
theorem Position.Reaches.offset_le {p q : Position} (h : p.Reaches q) : p.offset ≤ q.offset := by
  obtain ⟨text, between⟩ := h
  have moved := (Position.after?_eq_some_iff.1 between).2
  omega

/-! ## Clusters between two boundaries -/

namespace Text

/-- A cluster that ends in the first of two texts does not depend on the second. -/
theorem growCluster_of_append {e : ClusterEnd} {joined left more : Text}
    (h : growCluster e (joined ++ left ++ more) = (joined, left ++ more)) :
    growCluster e (joined ++ left) = (joined, left) := by
  induction joined generalizing e with
  | nil =>
    cases left with
    | nil => rfl
    | cons c left =>
      simp only [List.nil_append, List.cons_append, growCluster] at h ⊢
      split at h
      · simp at h
      · rename_i stops
        rw [if_neg stops]
  | cons c joined ih =>
    simp only [List.cons_append, growCluster] at h ⊢
    split at h
    · -- the next scalar joins the cluster, whether the second text is there or not
      rename_i joins
      simp only [Prod.mk.injEq, List.cons.injEq, true_and] at h
      have later := ih (Prod.ext h.1 h.2)
      rw [if_pos joins, later]
    · simp at h

theorem takeCluster_of_append {cluster left more : Text} (filled : cluster ≠ [])
    (h : takeCluster (cluster ++ left ++ more) = (cluster, left ++ more)) :
    takeCluster (cluster ++ left) = (cluster, left) := by
  obtain ⟨c, joined, rfl⟩ := List.exists_cons_of_ne_nil filled
  simp only [List.cons_append, takeCluster, Prod.mk.injEq, List.cons.injEq, true_and] at h ⊢
  have grown := growCluster_of_append (Prod.ext h.1 h.2)
  rw [grown]
  exact ⟨rfl, rfl⟩

/-- If the first cluster of two texts ends in the first of them, it is cut off there. -/
theorem clusters_of_takeCluster {cluster left more : Text} (filled : cluster ≠ [])
    (h : takeCluster (cluster ++ left ++ more) = (cluster, left ++ more)) :
    (cluster ++ left).clusters = cluster :: left.clusters := by
  have first := takeCluster_of_append filled h
  obtain ⟨c, joined, rfl⟩ := List.exists_cons_of_ne_nil filled
  rw [List.cons_append, clusters_cons, ← List.cons_append, first]

end Text

namespace Position

variable {P p q : Position} {text cluster : Text}

theorem takeCluster_of_nextCluster? (next : p.nextCluster? = some (cluster, q)) :
    Text.takeCluster p.rest = (cluster, q.rest) := by
  rw [nextCluster?] at next
  split at next
  · cases next
  · rename_i c rest left
    cases next
    rw [left]
    rfl

/-- The clusters of what is left are the next one and those behind it. -/
theorem clusters_of_nextCluster? (next : p.nextCluster? = some (cluster, q)) :
    p.rest.clusters = cluster :: q.rest.clusters := by
  have taken := takeCluster_of_nextCluster? next
  cases left : p.rest with
  | nil =>
    rw [nextCluster?, left] at next
    cases next
  | cons c rest => rw [Text.clusters_cons, ← left, taken]

/-- From one of the positions between clusters, all later ones are between the clusters of what is
left. -/
theorem mem_along_of_reaches (first : p ∈ P.along P.rest.clusters)
    (second : q ∈ P.along P.rest.clusters) (reached : p.Reaches q) :
    q ∈ p.along p.rest.clusters := by
  induction size : P.rest.length using Nat.strongRecOn generalizing P with
  | ind n ih =>
    cases left : P.rest with
    | nil =>
      rw [left] at first second
      rw [List.mem_singleton.1 first, List.mem_singleton.1 second]
      exact mem_along_self P _
    | cons c rest =>
      obtain ⟨Q, _, shorter, split⟩ := along_clusters_of_cons left
      rw [split] at first second
      rcases List.mem_cons.1 first with rfl | first'
      · rwa [split]
      · rcases List.mem_cons.1 second with rfl | second'
        · -- what lies behind the first cluster does not lead back in front of it
          have back := reached.length_le
          have onward := (reaches_of_mem_along first').length_le
          omega
        · exact ih Q.rest.length (size ▸ shorter) first' second' rfl

/-- The clusters up to a position between clusters are those of the text in front of it. -/
theorem clusters_of_mem_along (mem : q ∈ P.along P.rest.clusters)
    (reached : P.after? text = some q) :
    P.rest.clusters = text.clusters ++ q.rest.clusters := by
  induction size : P.rest.length using Nat.strongRecOn generalizing P text with
  | ind n ih =>
    have whole := (after?_eq_some_iff.1 reached).1
    cases left : P.rest with
    | nil =>
      rw [left] at whole
      obtain ⟨rfl, ended⟩ := List.append_eq_nil_iff.1 whole.symm
      rw [ended]
      rfl
    | cons c rest =>
      obtain ⟨Q, next, shorter, split⟩ := along_clusters_of_cons left
      rw [split] at mem
      rcases List.mem_cons.1 mem with rfl | mem
      · -- no text leads from a position to itself
        obtain rfl : text = [] := List.append_left_eq_self.1 whole.symm
        rw [left]
        rfl
      · generalize (Text.takeCluster P.rest).1 = cluster at next
        obtain ⟨text', later⟩ := reaches_of_mem_along mem
        obtain ⟨first, filled⟩ := after?_of_nextCluster? next
        have behind := (after?_eq_some_iff.1 later).1
        have front := (after?_eq_some_iff.1 first).1
        have parts : P.rest = cluster ++ text' ++ q.rest := by
          rw [front, behind, List.append_assoc]
        have begins : text = cluster ++ text' := List.append_cancel_right (whole.symm.trans parts)
        have taken := takeCluster_of_nextCluster? next
        rw [parts, behind] at taken
        calc Text.clusters (c :: rest)
          _ = P.rest.clusters := by rw [left]
          _ = cluster :: Q.rest.clusters := clusters_of_nextCluster? next
          _ = cluster :: (text'.clusters ++ q.rest.clusters) := by
            rw [ih Q.rest.length (size ▸ shorter) mem later rfl]
          _ = text.clusters ++ q.rest.clusters := by
            rw [begins, Text.clusters_of_takeCluster filled taken, List.cons_append]

end Position

/-- Between two boundaries of a text, its clusters are those of the text in between. -/
theorem Text.Between.clusters_eq_append {subject text : Text} {p q : Position}
    (first : subject.Between p) (second : subject.Between q) (reached : p.after? text = some q) :
    p.rest.clusters = text.clusters ++ q.rest.clusters :=
  have along := Position.mem_along_of_reaches first second ⟨text, reached⟩
  Position.clusters_of_mem_along along reached

end GraphemeRegex
