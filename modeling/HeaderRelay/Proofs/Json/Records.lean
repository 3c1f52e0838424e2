import HeaderRelay.Proofs.Json.Reading
import Mathlib.Data.List.Nodup

/-!
# Records in any order

The fields of a record are looked up by their keys.  So an object that has the members of
the record is taken for its fields, in whatever order the members stand.
-/

namespace HeaderRelay.Json

variable {fields members : List (String × Json)} {key : String} {value : Json}

/-! ## Plain values -/

/-- Whether a value is made up of tokens that are written in one way only. -/
def IsPlain (json : Json) : Prop :=
  ∀ token ∈ json.tokens, token.IsPlain

theorem isPlain_integer (value : Int) : (integer value).IsPlain := by
  rintro _ (_ | ⟨_, ⟨⟩⟩)
  exact trivial

theorem isPlain_ofText (text : String) : (ofText text).IsPlain := by
  rintro _ (_ | ⟨_, ⟨⟩⟩)
  exact Literal.isClosed_ofText text

theorem isPlain_of_mem_itemTokens {token : Token} : {items : List Json} →
    (∀ item ∈ items, item.IsPlain) → token ∈ itemTokens items → token.IsPlain
  | [], _, member => absurd member List.not_mem_nil
  | [item], plain, member => plain item List.mem_cons_self token member
  | item :: next :: rest, plain, member => by
      obtain ⟨first, others⟩ := List.forall_mem_cons.mp plain
      rw [itemTokens, List.mem_append, List.mem_cons] at member
      · rcases member with here | rfl | later
        · exact first token here
        · exact trivial
        · exact isPlain_of_mem_itemTokens others later
      · exact List.cons_ne_nil _ _

theorem isPlain_array {items : List Json} (plain : ∀ item ∈ items, item.IsPlain) :
    (array items).IsPlain := by
  intro token member
  rw [tokens, List.mem_append, List.mem_cons, List.mem_singleton] at member
  rcases member with (rfl | inside) | rfl
  · exact trivial
  · exact isPlain_of_mem_itemTokens plain inside
  · exact trivial

theorem isPlain_of_mem_memberTokens {token : Token} : {members : List (Literal × Json)} →
    (∀ member ∈ members, member.1.IsClosed ∧ member.2.IsPlain) → token ∈ memberTokens members →
      token.IsPlain
  | [], _, member => absurd member List.not_mem_nil
  | [(key, value)], plain, member => by
      obtain ⟨closed, isPlain⟩ := plain (key, value) List.mem_cons_self
      rw [memberTokens, List.mem_cons, List.mem_cons] at member
      rcases member with rfl | rfl | inside
      · exact closed
      · exact trivial
      · exact isPlain token inside
  | (key, value) :: next :: rest, plain, member => by
      obtain ⟨⟨closed, isPlain⟩, others⟩ := List.forall_mem_cons.mp plain
      rw [memberTokens, List.mem_append, List.mem_cons, List.mem_cons, List.mem_cons] at member
      · rcases member with (rfl | rfl | inside) | rfl | later
        · exact closed
        · exact trivial
        · exact isPlain token inside
        · exact trivial
        · exact isPlain_of_mem_memberTokens others later
      · exact List.cons_ne_nil _ _

theorem isPlain_ofMembers (plain : ∀ member ∈ members, member.2.IsPlain) :
    (ofMembers members).IsPlain := by
  intro token member
  rw [ofMembers, tokens, List.mem_append, List.mem_cons, List.mem_singleton] at member
  rcases member with (rfl | inside) | rfl
  · exact trivial
  · refine isPlain_of_mem_memberTokens (List.forall_mem_map.mpr ?_) inside
    exact fun member listed => ⟨Literal.isClosed_ofText member.1, plain member listed⟩
  · exact trivial

/-! ## Single values -/

@[simp] theorem text?_ofText (text : String) : (ofText text).text? = some text :=
  Literal.text?_ofText text

theorem integer?_integer {lower value upper : Int} (above : lower ≤ value)
    (below : value ≤ upper) : (integer value).integer? lower upper = some value := by
  rw [integer?, if_pos ⟨above, below⟩]

theorem items?_array (items : List Json) : (array items).items? items.length = some items := by
  rw [items?, if_pos rfl]

/-! ## Fields -/

/-- The members of a key in a record, which has each key once. -/
theorem filter_key (distinct : (fields.map Prod.fst).Nodup) (member : (key, value) ∈ fields) :
    (fields.filter fun (name, _) => name = key) = [(key, value)] := by
  induction fields with
  | nil => cases member
  | cons field rest ih =>
      obtain ⟨name, first⟩ := field
      rw [List.map_cons, List.nodup_cons] at distinct
      obtain ⟨fresh, distinct⟩ := distinct
      rcases List.mem_cons.mp member with same | later
      · cases same
        rw [List.filter_cons, if_pos (by simp), List.filter_eq_nil_iff.mpr]
        intro other listed same
        exact fresh (List.mem_map.mpr ⟨_, listed, of_decide_eq_true same⟩)
      · have differ : name ≠ key := by
          rintro rfl
          exact fresh (List.mem_map.mpr ⟨_, later, rfl⟩)
        rw [List.filter_cons, if_neg (by simpa using differ), ih distinct later]

theorem member?_of_perm (distinct : (fields.map Prod.fst).Nodup) (order : members.Perm fields)
    (member : (key, value) ∈ fields) : member? members key = some value := by
  have single {keep : String × Json → Bool} (kept : fields.filter keep = [(key, value)]) :
      members.filter keep = [(key, value)] :=
    List.perm_singleton.mp (kept ▸ order.filter keep)
  rw [member?, single (filter_key distinct member)]

/-- A list is read item by item if each of its items is read. -/
theorem mapM_eq_some_map {Item Value : Type} {items : List Item} {read : Item → Option Value}
    {pick : Item → Value} (found : ∀ item ∈ items, read item = some (pick item)) :
    items.mapM read = some (items.map pick) := by
  induction items with
  | nil => rfl
  | cons item rest ih =>
      obtain ⟨first, others⟩ := List.forall_mem_cons.mp found
      rw [List.mapM_cons, first, ih others]
      rfl

theorem mapM_text?_ofText (members : List (String × Json)) :
    ((members.map fun (key, value) => (Literal.ofText key, value)).mapM
      fun (key, value) => key.text?.map (·, value)) = some members := by
  have named : ∀ member ∈ members,
      (Literal.ofText member.1).text?.map (·, member.2) = some member := by
    intro member _
    rw [Literal.text?_ofText, Option.map_some]
  rw [List.mapM_map]
  exact (mapM_eq_some_map named).trans (congrArg some (List.map_id members))

theorem fields?_ofMembers (keys : List String) (members : List (String × Json)) :
    (ofMembers members).fields? keys = keys.mapM (member? members) := by
  rw [ofMembers, fields?, mapM_text?_ofText]
  rfl

/-- A record is taken for its fields, in whatever order its members stand. -/
theorem fields?_of_perm (distinct : (fields.map Prod.fst).Nodup) (order : members.Perm fields) :
    (ofMembers members).fields? (fields.map Prod.fst) = some (fields.map Prod.snd) := by
  rw [fields?_ofMembers, List.mapM_map]
  exact mapM_eq_some_map fun field listed => member?_of_perm distinct order listed

end HeaderRelay.Json
