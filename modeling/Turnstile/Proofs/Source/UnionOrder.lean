import Turnstile.Proofs.Source.BasicTypes

/-! # The order of unions, settled

The members of unions are written in the order in which they came up. Once all types that come up with
a type are listed, the type is written in one way, however the list goes on.

* **`SourceType.key_arranged`**: a type is the same type in every order of its unions.
* **`SourceType.arranged_append`**: what comes up later changes nothing in a type that came up. -/

namespace Turnstile.Source.SourceType

variable {order more : List Text}

/-! ## Keys -/

theorem tightnessIn_arranged (type : SourceType) :
    (type.arranged order).tightnessIn true = type.tightnessIn true := by
  cases type with
  | callable calls => rcases calls with _ | ⟨first, _ | ⟨second, rest⟩⟩ <;> rfl
  | array isReadonly element => cases isReadonly <;> rfl
  | tuple isReadonly items => cases isReadonly <;> rfl
  | _ => rfl

mutual

/-- **A type is the same in every order of its unions**: its key is made of all members, sorted. -/
theorem key_arranged : (type : SourceType) → textOf true (type.arranged order) = textOf true type
  | .any | .unknown | .never | .void | .undefined | .null | .string | .number | .integer | .boolean
  | .symbol | .object | .literal .. | .enumeration .. | .enumMember .. | .parameter .. | .unresolved ..
  | .valueOf .. | .moduleValue _ | .deferred .. | .other | .union .. | .alias .. => rfl
  | .array isReadonly element => by
    rw [arranged, textOf, textOf, tightnessIn_arranged, key_arranged element]
  | .tuple isReadonly items => by rw [arranged, textOf, textOf, tupleTexts_arranged items]
  | .callable [] => rfl
  | .callable [call] => by
    rw [arranged, arrangedCalls, arrangedCalls, textOf, textOf, callText_arranged _ call]
  | .callable (first :: second :: rest) => by
    have htexts := callTexts_arranged (first :: second :: rest)
    simp only [arrangedCalls] at htexts
    simp only [arranged, arrangedCalls, textOf, htexts]
  | .constructable isAbstract call => by rw [arranged, textOf, textOf, callText_arranged _ call]
  | .record [] => rfl
  | .record (first :: rest) => by
    have htexts := memberTexts_arranged (first :: rest)
    cases first <;>
      · simp only [arrangedMembers] at htexts
        simp only [arranged, arrangedMembers, textOf, htexts]
  | .intersection members => by
    rw [arranged, textOf, textOf, textsOf_arranged 3 members]
  | .named home name arguments => by rw [arranged, textOf, textOf, textsOf_arranged 0 arguments]
  | .keysOf type => by rw [arranged, textOf, textOf, tightnessIn_arranged, key_arranged type]
  | .indexed container key => by
    rw [arranged, textOf, textOf, tightnessIn_arranged, key_arranged container, key_arranged key]

theorem textsOf_arranged (needed : Nat) : (types : List SourceType) →
    textsOf true needed (arrangedAll order types) = textsOf true needed types
  | [] => rfl
  | type :: rest => by
    rw [arrangedAll, textsOf, textsOf, tightnessIn_arranged, key_arranged type,
      textsOf_arranged needed rest]

theorem tupleTexts_arranged : (items : List TupleType) →
    tupleTexts true (arrangedItems order items) = tupleTexts true items
  | [] => rfl
  | ⟨label, isOptional, isRest, type⟩ :: rest => by
    rw [arrangedItems]
    cases label <;> cases isOptional <;> cases isRest <;>
      simp only [tupleTexts, tightnessIn_arranged, key_arranged type, tupleTexts_arranged rest]

theorem formalTexts_arranged : (formals : List FormalType) →
    formalTexts true (arrangedFormals order formals) = formalTexts true formals
  | [] => rfl
  | ⟨name, isOptional, isRest, type, declared, hasDefault⟩ :: rest => by
    rw [arrangedFormals, formalTexts, formalTexts, key_arranged type, key_arranged declared,
      formalTexts_arranged rest]

theorem callText_arranged (arrow : Text) : (call : CallType) →
    callText true arrow (arrangedCall order call) = callText true arrow call
  | ⟨typeFormals, receiver, formals, result, predicate, isSynthetic⟩ => by
    rw [arrangedCall, callText, callText, formalTexts_arranged formals, key_arranged result]

theorem callTexts_arranged : (calls : List CallType) →
    callTexts true (arrangedCalls order calls) = callTexts true calls
  | [] => rfl
  | call :: rest => by
    rw [arrangedCalls, callTexts, callTexts, callText_arranged _ call, callTexts_arranged rest]

theorem memberTexts_arranged : (members : List MemberType) →
    memberTexts true (arrangedMembers order members) = memberTexts true members
  | [] => rfl
  | .property name isOptional isReadonly type :: rest => by
    rw [arrangedMembers, memberTexts, memberTexts, key_arranged type, memberTexts_arranged rest]
  | .method name isOptional call :: rest => by
    rw [arrangedMembers, memberTexts, memberTexts, callText_arranged _ call, memberTexts_arranged rest]
  | .call call :: rest => by
    rw [arrangedMembers, memberTexts, memberTexts, callText_arranged _ call, memberTexts_arranged rest]
  | .construct call :: rest => by
    rw [arrangedMembers, memberTexts, memberTexts, callText_arranged _ call, memberTexts_arranged rest]
  | .index name isReadonly key type :: rest => by
    rw [arrangedMembers, memberTexts, memberTexts, key_arranged key, key_arranged type,
      memberTexts_arranged rest]

end

/-! ## What came up -/

/-- A type comes up with itself. -/
theorem key_mem_mentioned : (type : SourceType) → type.key ∈ type.mentioned
  | .alias _ _ arguments meaning => by
    have hmeaning := key_mem_mentioned meaning
    rw [mentioned]
    exact List.mem_append_right _ hmeaning
  | .array .. | .tuple .. | .union .. | .intersection _ | .named .. | .keysOf _ | .indexed .. => by
    rw [mentioned]
    exact List.mem_append_right _ (List.mem_singleton_self _)
  | .any | .unknown | .never | .void | .undefined | .null | .string | .number | .integer | .boolean
  | .symbol | .object | .literal .. | .callable _ | .constructable .. | .record _ | .enumeration ..
  | .enumMember .. | .parameter .. | .unresolved .. | .valueOf .. | .moduleValue _ | .deferred ..
  | .other => List.mem_singleton_self _

theorem key_mem_mentionedAll {type : SourceType} {types : List SourceType} (h : type ∈ types) :
    type.key ∈ mentionedAll types := by
  induction types with
  | nil => exact absurd h List.not_mem_nil
  | cons first rest ih =>
    rw [mentionedAll, List.mem_append]
    obtain rfl | h := List.mem_cons.mp h
    · exact .inl (key_mem_mentioned type)
    · exact .inr (ih h)

/-! ## Longer lists -/

theorem insertArranged_congr {place place' : SourceType → Nat} {type : SourceType}
    {types : List SourceType} (htype : place type = place' type)
    (h : ∀ one ∈ types, place one = place' one) :
    insertArranged place type types = insertArranged place' type types := by
  induction types with
  | nil => rfl
  | cons first rest ih =>
    rw [insertArranged, insertArranged, htype, h first List.mem_cons_self,
      ih fun one hone => h one (List.mem_cons_of_mem _ hone)]

/-- Where the members of a union came up, a longer list puts them in the same order. -/
theorem arrange_append {types : List SourceType} (h : ∀ type ∈ types, type.key ∈ order) :
    arrange (order ++ more) types = arrange order types := by
  induction types with
  | nil => rfl
  | cons type rest ih =>
    have hplace (one : SourceType) (hone : one ∈ type :: rest) :
        (order ++ more).idxOf one.key = order.idxOf one.key := List.idxOf_append_of_mem (h one hone)
    have hrest := ih fun one hone => h one (List.mem_cons_of_mem _ hone)
    rw [arrange, arrange] at hrest ⊢
    simp only [List.foldr_cons] at hrest ⊢
    rw [hrest]
    refine insertArranged_congr (hplace type List.mem_cons_self) fun one hone => ?_
    exact hplace one (List.mem_cons_of_mem _ ((arrange_perm order rest).mem_iff.mp hone))

mutual

/-- **What comes up later changes nothing in a type that came up**, with all that comes up with it. -/
theorem arranged_append : (type : SourceType) → type.mentioned ⊆ order → type.inner ⊆ order →
    type.arranged (order ++ more) = type.arranged order
  | .any | .unknown | .never | .void | .undefined | .null | .string | .number | .integer | .boolean
  | .symbol | .object | .literal .. | .enumeration .. | .enumMember .. | .parameter .. | .unresolved ..
  | .valueOf .. | .moduleValue _ | .deferred .. | .other => fun _ _ => rfl
  | .array isReadonly element => fun hmentioned hinner => by
    rw [mentioned, List.append_subset] at hmentioned
    rw [arranged, arranged, arranged_append element hmentioned.1 hinner]
  | .tuple isReadonly items => fun hmentioned hinner => by
    rw [mentioned, List.append_subset] at hmentioned
    rw [arranged, arranged, arrangedItems_append items hmentioned.1 hinner]
  | .callable calls => fun _ hinner => by
    rw [arranged, arranged, arrangedCalls_append calls hinner]
  | .constructable isAbstract call => fun _ hinner => by
    rw [arranged, arranged, arrangedCall_append call hinner]
  | .record members => fun _ hinner => by
    rw [arranged, arranged, arrangedMembers_append members hinner]
  | .union members shown => fun hmentioned hinner => by
    rw [mentioned, List.append_subset] at hmentioned
    rw [arranged, arranged, arrangedAll_append shown hmentioned.1 hinner, arrange_append]
    intro type htype
    rw [arrangedAll_eq_map, List.mem_map] at htype
    obtain ⟨one, hone, rfl⟩ := htype
    have hkey : (one.arranged order).key = one.key := key_arranged one
    rw [hkey]
    exact hmentioned.1 (key_mem_mentionedAll hone)
  | .intersection members => fun hmentioned hinner => by
    rw [mentioned, List.append_subset] at hmentioned
    rw [arranged, arranged, arrangedAll_append members hmentioned.1 hinner]
  | .named home name arguments => fun hmentioned hinner => by
    rw [mentioned, List.append_subset] at hmentioned
    rw [arranged, arranged, arrangedAll_append arguments hmentioned.1 hinner]
  | .alias home name arguments meaning => fun hmentioned hinner => by
    rw [mentioned, List.append_subset] at hmentioned
    rw [arranged, arranged, arrangedAll_append arguments hmentioned.1 hinner]
  | .keysOf type => fun hmentioned hinner => by
    rw [mentioned, List.append_subset] at hmentioned
    rw [arranged, arranged, arranged_append type hmentioned.1 hinner]
  | .indexed container key => fun hmentioned hinner => by
    rw [mentioned, List.append_subset, List.append_subset] at hmentioned
    rw [inner, List.append_subset] at hinner
    rw [arranged, arranged, arranged_append container hmentioned.1.1 hinner.1,
      arranged_append key hmentioned.1.2 hinner.2]

theorem arrangedAll_append : (types : List SourceType) → mentionedAll types ⊆ order →
    innerAll types ⊆ order → arrangedAll (order ++ more) types = arrangedAll order types
  | [] => fun _ _ => rfl
  | type :: rest => fun hmentioned hinner => by
    rw [mentionedAll, List.append_subset] at hmentioned
    rw [innerAll, List.append_subset] at hinner
    rw [arrangedAll, arrangedAll, arranged_append type hmentioned.1 hinner.1,
      arrangedAll_append rest hmentioned.2 hinner.2]

theorem arrangedItems_append : (items : List TupleType) → mentionedItems items ⊆ order →
    innerItems items ⊆ order → arrangedItems (order ++ more) items = arrangedItems order items
  | [] => fun _ _ => rfl
  | ⟨_, _, _, type⟩ :: rest => fun hmentioned hinner => by
    rw [mentionedItems, List.append_subset] at hmentioned
    rw [innerItems, List.append_subset] at hinner
    rw [arrangedItems, arrangedItems, arranged_append type hmentioned.1 hinner.1,
      arrangedItems_append rest hmentioned.2 hinner.2]

theorem arrangedFormals_append : (formals : List FormalType) → innerFormals formals ⊆ order →
    arrangedFormals (order ++ more) formals = arrangedFormals order formals
  | [] => fun _ => rfl
  | ⟨_, _, _, type, declared, _⟩ :: rest => fun hinner => by
    simp only [innerFormals, List.append_subset] at hinner
    obtain ⟨⟨⟨⟨htype, htype'⟩, hdeclared⟩, hdeclared'⟩, hrest⟩ := hinner
    rw [arrangedFormals, arrangedFormals, arranged_append type htype htype',
      arranged_append declared hdeclared hdeclared', arrangedFormals_append rest hrest]

theorem arrangedCall_append : (call : CallType) → innerCall call ⊆ order →
    arrangedCall (order ++ more) call = arrangedCall order call
  | ⟨_, _, formals, result, _, _⟩ => fun hinner => by
    simp only [innerCall, List.append_subset] at hinner
    obtain ⟨⟨hformals, hresult⟩, hresult'⟩ := hinner
    rw [arrangedCall, arrangedCall, arrangedFormals_append formals hformals,
      arranged_append result hresult hresult']

theorem arrangedCalls_append : (calls : List CallType) → innerCalls calls ⊆ order →
    arrangedCalls (order ++ more) calls = arrangedCalls order calls
  | [] => fun _ => rfl
  | call :: rest => fun hinner => by
    rw [innerCalls, List.append_subset] at hinner
    rw [arrangedCalls, arrangedCalls, arrangedCall_append call hinner.1,
      arrangedCalls_append rest hinner.2]

theorem arrangedMembers_append : (members : List MemberType) → innerMembers members ⊆ order →
    arrangedMembers (order ++ more) members = arrangedMembers order members
  | [] => fun _ => rfl
  | .property _ _ _ type :: rest => fun hinner => by
    simp only [innerMembers, List.append_subset] at hinner
    rw [arrangedMembers, arrangedMembers, arranged_append type hinner.1.1 hinner.1.2,
      arrangedMembers_append rest hinner.2]
  | .method _ _ call :: rest | .call call :: rest | .construct call :: rest => fun hinner => by
    rw [innerMembers, List.append_subset] at hinner
    rw [arrangedMembers, arrangedMembers, arrangedCall_append call hinner.1,
      arrangedMembers_append rest hinner.2]
  | .index _ _ key type :: rest => fun hinner => by
    simp only [innerMembers, List.append_subset] at hinner
    obtain ⟨⟨⟨⟨hkey, htype⟩, hkey'⟩, htype'⟩, hrest⟩ := hinner
    rw [arrangedMembers, arrangedMembers, arranged_append key hkey hkey',
      arranged_append type htype htype', arrangedMembers_append rest hrest]

end

end Turnstile.Source.SourceType
