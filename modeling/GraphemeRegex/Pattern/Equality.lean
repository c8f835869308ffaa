import GraphemeRegex.Pattern.Basic

/-! # Equality of patterns — a comparison that decides it

`ClassMember.same` and `Pattern.same` compare two trees node by node; `same_iff` says that they
decide equality.
-/

namespace GraphemeRegex

namespace ClassMember

mutual

/-- Whether two members are equal. -/
def same : ClassMember → ClassMember → Bool
  | atom a, atom b => a == b
  | range low high, range low' high' => low == low' && high == high'
  | nested inverted members, nested inverted' members' =>
    inverted == inverted' && sameAll members members'
  | posix name inverted, posix name' inverted' => name == name' && inverted == inverted'
  | quote text, quote text' => text == text'
  | _, _ => false

/-- Whether two lists of members are equal. -/
def sameAll : List ClassMember → List ClassMember → Bool
  | [], [] => true
  | m :: ms, m' :: ms' => same m m' && sameAll ms ms'
  | _, _ => false

end

mutual

theorem same_iff : ∀ m m' : ClassMember, same m m' = true ↔ m = m'
  | atom _, m' => by cases m' <;> simp [same]
  | range _ _, m' => by cases m' <;> simp [same]
  | nested _ members, m' => by
    cases m' with
    | nested _ members' => simp [same, sameAll_iff members members']
    | _ => simp [same]
  | posix _ _, m' => by cases m' <;> simp [same]
  | quote _, m' => by cases m' <;> simp [same]

theorem sameAll_iff : ∀ ms ms' : List ClassMember, sameAll ms ms' = true ↔ ms = ms'
  | [], ms' => by cases ms' <;> simp [sameAll]
  | m :: ms, ms' => by
    cases ms' with
    | nil => simp [sameAll]
    | cons m' ms' => simp [sameAll, same_iff m m', sameAll_iff ms ms']

end

instance : DecidableEq ClassMember := fun m m' =>
  decidable_of_iff _ (same_iff m m')

end ClassMember

namespace Pattern

mutual

/-- Whether two patterns are equal. -/
def same : Pattern → Pattern → Bool
  | alternation branches, alternation branches' => sameAll branches branches'
  | concatenation items, concatenation items' => sameAll items items'
  | group kind body, group kind' body' => kind == kind' && same body body'
  | transformed transform kind body, transformed transform' kind' body' =>
    transform == transform' && kind == kind' && same body body'
  | repetition amount greed body, repetition amount' greed' body' =>
    amount == amount' && greed == greed' && same body body'
  | quote text, quote text' => text == text'
  | trivia text, trivia text' => text == text'
  | atom a, atom b => a == b
  | leveled cls level, leveled cls' level' => cls == cls' && level == level'
  | custom inverted members, custom inverted' members' =>
    inverted == inverted' && members == members'
  | empty, empty => true
  | _, _ => false

/-- Whether two lists of patterns are equal. -/
def sameAll : List Pattern → List Pattern → Bool
  | [], [] => true
  | p :: ps, p' :: ps' => same p p' && sameAll ps ps'
  | _, _ => false

end

mutual

theorem same_iff : ∀ p p' : Pattern, same p p' = true ↔ p = p'
  | alternation branches, p' => by
    cases p' with
    | alternation branches' => simp [same, sameAll_iff branches branches']
    | _ => simp [same]
  | concatenation items, p' => by
    cases p' with
    | concatenation items' => simp [same, sameAll_iff items items']
    | _ => simp [same]
  | group _ body, p' => by
    cases p' with
    | group _ body' => simp [same, same_iff body body']
    | _ => simp [same]
  | transformed _ _ body, p' => by
    cases p' with
    | transformed _ _ body' => simp [same, same_iff body body', and_assoc]
    | _ => simp [same]
  | repetition _ _ body, p' => by
    cases p' with
    | repetition _ _ body' => simp [same, same_iff body body', and_assoc]
    | _ => simp [same]
  | quote _, p' => by cases p' <;> simp [same]
  | trivia _, p' => by cases p' <;> simp [same]
  | atom _, p' => by cases p' <;> simp [same]
  | leveled _ _, p' => by cases p' <;> simp [same]
  | custom _ _, p' => by cases p' <;> simp [same]
  | empty, p' => by cases p' <;> simp [same]

theorem sameAll_iff : ∀ ps ps' : List Pattern, sameAll ps ps' = true ↔ ps = ps'
  | [], ps' => by cases ps' <;> simp [sameAll]
  | p :: ps, ps' => by
    cases ps' with
    | nil => simp [sameAll]
    | cons p' ps' => simp [sameAll, same_iff p p', sameAll_iff ps ps']

end

instance : DecidableEq Pattern := fun p p' =>
  decidable_of_iff _ (same_iff p p')

end Pattern

end GraphemeRegex
