import GraphemeRegex.Proofs.Text.Boundaries

/-! # Flat texts — where clusters and scalars are the same

In a flat text no cluster has more than one scalar, so it makes no difference whether a reader steps
by clusters or by scalars.

* `Text.Flat`: from every position the next cluster is a single scalar.
* `Text.Flat.nextCluster?_eq`, `Text.Flat.clusters_eq`, `Text.Flat.between`: the two ways of
  stepping agree.
* `Text.flat_of_ascii`: ASCII is flat unless a carriage return comes right before a line feed.
-/

namespace GraphemeRegex

namespace Text

/-- From every position of the text, the next cluster is a single scalar. -/
def Flat (text : Text) : Prop :=
  ∀ (p q : Position) (cluster : Text), text.start.Reaches p →
    p.nextCluster? = some (cluster, q) → ∃ c, cluster = [c]

namespace Flat

variable {text : Text} {p : Position}

/-- The next cluster of a flat text is the next scalar. -/
theorem nextCluster?_eq (flat : text.Flat) (inside : text.start.Reaches p) :
    p.nextCluster? = p.nextScalar?.map fun (c, q) => ([c], q) := by
  cases found : p.nextCluster? with
  | none =>
    unfold Position.nextCluster? at found
    split at found
    · rename_i empty
      rw [Position.nextScalar?, empty]
      rfl
    · cases found
  | some pair =>
    obtain ⟨cluster, q⟩ := pair
    -- in a flat text the cluster is a single scalar
    obtain ⟨c, rfl⟩ := flat p q cluster inside found
    have scalar := Position.nextScalar?_eq_some_iff.2 (Position.after?_of_nextCluster? found).1
    rw [scalar, Option.map_some]

/-- What follows a position of a flat text falls into its scalars. -/
theorem clusters_rest (flat : text.Flat) (inside : text.start.Reaches p) :
    p.rest.clusters = p.rest.map ([·]) := by
  -- induction on the text that is left, one scalar at a time
  induction left : p.rest generalizing p with
  | nil => rfl
  | cons c rest ih =>
    have next := flat.nextCluster?_eq inside
    rw [Position.nextCluster?, Position.nextScalar?, left] at next
    simp only [Option.map_some, Option.some.injEq, Prod.mk.injEq, Position.mk.injEq] at next
    obtain ⟨cluster, _, others⟩ := next
    have step : p.after? [c] = some ⟨p.offset + c.utf8Size, rest⟩ :=
      Position.after?_eq_some_iff.2 ⟨left, by simp⟩
    rw [clusters_cons, cluster, others, List.map_cons]
    exact congrArg _ (ih (inside.trans ⟨[c], step⟩) rfl)

theorem clusters_eq (flat : text.Flat) : text.clusters = text.map ([·]) :=
  flat.clusters_rest (.refl text.start)

/-- Each position of a flat text lies between two clusters. -/
theorem between (flat : text.Flat) (inside : text.start.Reaches p) : text.Between p := by
  obtain ⟨taken, reached⟩ := inside
  suffices onward : ∀ (taken : Text) (a : Position), text.Between a → a.after? taken = some p →
      text.Between p from onward taken text.start (Position.mem_along_self _ _) reached
  intro taken
  induction taken with
  | nil =>
    intro a between reached
    rw [Position.after?_nil] at reached
    exact Option.some.inj reached ▸ between
  | cons c taken ih =>
    intro a between reached
    rw [← List.singleton_append] at reached
    -- the first scalar is a cluster, and the others come behind it
    obtain ⟨b, first, later⟩ := Position.after?_append.1 reached
    have next : a.nextCluster? = some ([c], b) := by
      rw [flat.nextCluster?_eq between.reaches, Position.nextScalar?_eq_some_iff.2 first]
      rfl
    exact ih b (between.nextCluster? next) later

end Flat

end Text

/-! ## ASCII -/

/-- Beside the two scalars of a line break, ASCII has controls and ordinary scalars only. -/
theorem ClusterClass.ofChar_of_ascii {c : Char} (ascii : c.toNat < 0x80) :
    c = '\r' ∧ ofChar c = .carriageReturn ∨ c = '\n' ∧ ofChar c = .lineFeed ∨
      ofChar c = .control ∨ ofChar c = .other := by
  rw [ofChar]
  split
  · rename_i same
    exact .inl ⟨same, rfl⟩
  · split
    · rename_i same
      exact .inr (.inl ⟨same, rfl⟩)
    · split
      · exact .inr (.inr (.inl rfl))
      · split
        · exact .inr (.inr (.inr rfl))
        · -- only the last scalar of ASCII is looked up
          have last : c = '\x7f' := by
            apply Char.toNat_inj.1
            show c.toNat = 0x7f
            omega
          subst last
          exact .inr (.inr (.inl (by decide +kernel)))

/-- In ASCII, nothing joins a cluster but a line feed behind a carriage return. -/
theorem ClusterEnd.joins_of_ascii {c d : Char} (first : c.toNat < 0x80) (second : d.toNat < 0x80)
    (apart : c = '\r' → d ≠ '\n') : (start (.ofChar c)).joins (.ofChar d) = false := by
  rcases ClusterClass.ofChar_of_ascii first with ⟨rfl, h⟩ | ⟨_, h⟩ | h | h <;>
    rcases ClusterClass.ofChar_of_ascii second with ⟨_, h'⟩ | ⟨rfl, h'⟩ | h' | h' <;>
      rw [h, h']
  all_goals first
    | rfl
    | exact absurd rfl (apart rfl)

/-- ASCII is flat, if no line break in it has two scalars. -/
theorem Text.flat_of_ascii {text : Text} (ascii : ∀ c ∈ text, c.toNat < 0x80)
    (apart : ¬ ['\r', '\n'] <:+: text) : text.Flat := by
  intro p q cluster inside found
  obtain ⟨taken, reached⟩ := inside
  have split : text = taken ++ p.rest := (Position.after?_eq_some_iff.1 reached).1
  unfold Position.nextCluster? at found
  cases left : p.rest with
  | nil =>
    rw [left] at found
    cases found
  | cons c rest =>
    rw [left] at found split
    cases found
    refine ⟨c, ?_⟩
    cases rest with
    | nil => rfl
    | cons d rest =>
      -- two scalars of ASCII are joined in a line break only
      have stops : (ClusterEnd.start (.ofChar c)).joins (.ofChar d) = false := by
        refine ClusterEnd.joins_of_ascii (ascii c (by simp [split])) (ascii d (by simp [split])) ?_
        rintro rfl rfl
        exact apart ⟨taken, rest, by simp [split]⟩
      simp [growCluster, stops]

end GraphemeRegex
