import Mathlib.Data.List.Pairwise
import UssdCredit.Library.Runs
import UssdCredit.InfluencerDocuments

/-! The shortcodes of the influencer documents stay unique, although an update always writes
the field and two documents may share an id. -/

namespace UssdCredit

open Library

namespace Document

/-- The shortcode of a document; a document without one has null. -/
def shortcode (d : Document) : Value := d.get "ussd_shortcode" .null

end Document

def IsEmptyCode (code : Value) : Prop := code = .null ∨ code = .str ""

/-- No two documents have the same shortcode, except the empty ones. -/
def UniqueShortcodes (c : Collection) : Prop :=
  c.docs.Pairwise fun a b => a.shortcode = b.shortcode → IsEmptyCode a.shortcode

/-- The payload of a request is a JSON object with strings and nulls for values. -/
def InfluencersRequest.Textual : InfluencersRequest → Prop
  | .create req | .update req _ => ∃ entries, req.getJson = .ok (.dict entries) ∧
      ∀ entry ∈ entries, entry.2 = .null ∨ ∃ s, entry.2 = .str s
  | _ => True

theorem lookup_textual {entries : Fields} (texts : ∀ entry ∈ entries, entry.2 = .null ∨ ∃ s, entry.2 = .str s)
    (key : String) : entries.lookup key = none ∨ entries.lookup key = some .null ∨
      ∃ s, entries.lookup key = some (.str s) := by
  cases present : entries.lookup key with
  | none => exact .inl rfl
  | some value =>
    rcases texts _ (Dict.mem_of_lookup present) with null | ⟨s, text⟩
    · exact .inr (.inl (congrArg some null))
    · exact .inr (.inr ⟨s, congrArg some text⟩)

/-- A text no document matches is no document's shortcode. -/
theorem shortcode_ne_of_free {c : Collection} {s : String}
    (free : c.first? [.eq "ussd_shortcode" (.str s)] = none) {d : Document} (member : d ∈ c.docs) :
    d.shortcode ≠ .str s := by
  intro same
  have misses := List.find?_eq_none.mp free d member
  have stored : d.get? "ussd_shortcode" = some (.str s) := by
    unfold Document.shortcode Document.get at same
    cases present : d.get? "ussd_shortcode" with
    | none =>
      rw [present] at same
      cases same
    | some code =>
      rw [present] at same
      exact congrArg some same
  apply misses
  simp [Document.satisfies, Condition.holds, stored, Value.matchesField_self]

/-- Two documents with one shortcode are one document, or the shortcode is empty. -/
theorem UniqueShortcodes.eq_or_empty {c : Collection} (unique : UniqueShortcodes c) {a b : Document}
    (member : a ∈ c.docs) (member' : b ∈ c.docs) (same : a.shortcode = b.shortcode) :
    a = b ∨ IsEmptyCode a.shortcode := by
  by_cases equal : a = b
  · exact .inl equal
  · have : Std.Symm fun a b : Document => a.shortcode = b.shortcode → IsEmptyCode a.shortcode :=
      ⟨fun x y related equal => equal ▸ related equal.symm⟩
    exact .inr (unique.forall member member' equal same)

section Writes

variable {c c' : Collection}

theorem UniqueShortcodes.append (unique : UniqueShortcodes c) {d : Document}
    (stored : c'.docs = c.docs ++ [d])
    (fresh : IsEmptyCode d.shortcode ∨ ∀ other ∈ c.docs, other.shortcode ≠ d.shortcode) :
    UniqueShortcodes c' := by
  unfold UniqueShortcodes
  rw [stored, List.pairwise_append]
  refine ⟨unique, List.pairwise_singleton .., ?_⟩
  intro other member last isLast same
  rw [List.mem_singleton.mp isLast] at same
  rcases fresh with empty | fresh
  · rwa [same]
  · exact absurd same (fresh other member)

/-- An edit of one document keeps the shortcodes unique when no other document has the one it
leaves there. -/
theorem UniqueShortcodes.edit (unique : UniqueShortcodes c) {d : Document} (present : d ∈ c.docs)
    {update : Fields} (stored : c'.docs = c.docs.map (Document.edit d.oid update))
    (fresh : ∀ other ∈ c.docs, other.shortcode = (d.edit d.oid update).shortcode →
      other = d ∨ IsEmptyCode other.shortcode) : UniqueShortcodes c' := by
  unfold UniqueShortcodes
  rw [stored, List.pairwise_map]
  have distinct : c.docs.Pairwise fun a b => a.oid ≠ b.oid := List.pairwise_map.mp c.nodup
  refine (unique.and distinct).imp_of_mem fun {a b} member member' ⟨apart, different⟩ same => ?_
  by_cases first : a.oid = d.oid
  · obtain rfl : a = d := Collection.eq_of_oid member present first
    rw [Document.edit_other update different.symm] at same
    rw [same]
    rcases fresh b member' same.symm with edited | empty
    · exact absurd (congrArg Document.oid edited.symm) different
    · exact empty
  · rw [Document.edit_other update first] at same ⊢
    by_cases second : b.oid = d.oid
    · obtain rfl : b = d := Collection.eq_of_oid member' present second
      rcases fresh a member same with edited | empty
      · exact absurd (congrArg Document.oid edited) different
      · exact empty
    · rw [Document.edit_other update second] at same
      exact apart same

/-- An edit that leaves every shortcode alone. -/
theorem UniqueShortcodes.edit_keeps (unique : UniqueShortcodes c) {oid : Nat} {update : Fields}
    (stored : c'.docs = c.docs.map (Document.edit oid update))
    (keeps : ∀ d ∈ c.docs, (d.edit oid update).shortcode = d.shortcode) : UniqueShortcodes c' := by
  unfold UniqueShortcodes
  rw [stored, List.pairwise_map]
  refine unique.imp_of_mem fun {a b} member member' apart => ?_
  rwa [keeps a member, keeps b member']

end Writes

/-- What an update leaves as the shortcode of its document. -/
theorem shortcode_updateFields (entries : Fields) (doc : Document) (now : Int) :
    (doc.edit doc.oid (updateFields entries doc now)).shortcode =
      given entries "ussd_shortcode" doc.shortcode := by
  unfold Document.shortcode Document.get
  rw [Document.edit_self_get?]
  simp [updateFields, Dict.setAll, Dict.lookup_set, Document.get]

/-- A new shortcode is a text that was looked for in the whole collection. -/
theorem UniqueShortcodes.created {mongo : MongoEngine} {c c' : Collection}
    (unique : UniqueShortcodes c) {req : Http} {entries : Fields}
    (texts : ∀ entry ∈ entries, entry.2 = .null ∨ ∃ s, entry.2 = .str s)
    (creation : Creation mongo c req entries)
    (stored : c'.docs = c.docs ++ [⟨c.newOid, newFields entries req.now c.docs.length⟩]) :
    UniqueShortcodes c' := by
  refine unique.append stored (.inr fun other member same => ?_)
  have code : (Document.mk c.newOid (newFields entries req.now c.docs.length)).shortcode =
      given entries "ussd_shortcode" .null := rfl
  rw [code] at same
  have coded := creation.coded
  have free := creation.free
  rcases lookup_textual texts "ussd_shortcode" with absent | null | ⟨s, text⟩
  · rw [given_of_absent absent] at coded
    cases coded
  · rw [given_of_present null] at coded
    cases coded
  · rw [given_of_present text] at same
    rw [codeQuery_str mongo text] at free
    exact shortcode_ne_of_free free member same

/-- An absent key writes the old shortcode back, an empty one is no clash, and a text was either
there before or has been looked for in the whole collection. -/
theorem UniqueShortcodes.updated {mongo : MongoEngine} {c c' : Collection}
    (unique : UniqueShortcodes c) {req : Http} {influencerId : Nat} {entries : Fields} {doc : Document}
    (texts : ∀ entry ∈ entries, entry.2 = .null ∨ ∃ s, entry.2 = .str s)
    (update : Update mongo c req influencerId entries doc)
    (stored : c'.docs = c.docs.map (Document.edit doc.oid (updateFields entries doc req.now))) :
    UniqueShortcodes c' := by
  have present := (Collection.first?_mem update.found).1
  refine unique.edit present stored fun other member same => ?_
  rw [shortcode_updateFields] at same
  rcases lookup_textual texts "ussd_shortcode" with absent | null | ⟨s, text⟩
  · rw [given_of_absent absent] at same
    exact unique.eq_or_empty member present same
  · rw [given_of_present null] at same
    exact .inr (.inl same)
  · rw [given_of_present text] at same
    by_cases empty : s = ""
    · exact .inr (.inr (empty ▸ same))
    · cases differs : recodes entries doc with
      | true =>
        have free := update.free differs
        rw [codeQuery_str mongo text] at free
        exact absurd same (shortcode_ne_of_free free member)
      | false =>
        have kept : doc.shortcode = .str s := by
          unfold recodes at differs
          rw [given_of_present text] at differs
          refine Value.eq_of_str_pyEq ?_
          change (Value.str s).pyEq (doc.get "ussd_shortcode" .null) = true
          simpa [Value.truthy, empty] using differs
        exact unique.eq_or_empty member present (same.trans kept.symm)

/-- One request keeps the shortcodes unique. -/
theorem uniqueShortcodes_step {mongo : MongoEngine} {c : Collection} (unique : UniqueShortcodes c)
    {request : InfluencersRequest} (textual : request.Textual) :
    UniqueShortcodes (request.mongoStep mongo c) := by
  have effect := docs_effect mongo c request
  generalize request.mongoStep mongo c = c' at effect
  cases effect with
  | kept => exact unique
  | created creation stored =>
    obtain ⟨entries, parsed, texts⟩ := textual
    obtain rfl := Http.entries_unique parsed creation.parsed
    exact unique.created texts creation stored
  | updated update stored =>
    obtain ⟨entries, parsed, texts⟩ := textual
    obtain rfl := Http.entries_unique parsed update.parsed
    exact unique.updated texts update stored
  | restatus sets reachable found stored =>
    refine unique.edit_keeps stored fun d _ => ?_
    unfold Document.shortcode Document.get
    rw [Document.edit_get? (by simp [statusFields])]
  | deleted stored =>
    unfold UniqueShortcodes
    rw [stored]
    exact unique.sublist List.eraseP_sublist

/-- From a collection whose non-empty shortcodes are distinct, every run of requests with texts
and nulls keeps them distinct, whatever ids the documents have. -/
theorem shortcodes_unique {mongo : MongoEngine} {c : Collection} (unique : UniqueShortcodes c)
    (requests : List InfluencersRequest) (textual : ∀ request ∈ requests, request.Textual) :
    UniqueShortcodes (requests.foldl (InfluencersRequest.mongoStep mongo) c) := by
  refine run_invariant_of_forall UniqueShortcodes ?_ unique textual
  intro c request unique textual
  exact uniqueShortcodes_step unique textual

theorem shortcodeRequest_textual (name code : String) : ∃ entries,
    (shortcodeRequest name code).getJson = .ok (.dict entries) ∧
      ∀ entry ∈ entries, entry.2 = .null ∨ ∃ s, entry.2 = .str s :=
  ⟨_, rfl, by simp⟩

/-- A run in which two documents come to share an id. -/
theorem shortcodes_unique_shared_id : UniqueShortcodes ([
    .create (shortcodeRequest "Sarah Kimani" "123"), .create (shortcodeRequest "David Ochieng" "124"),
    .delete 1, .create (shortcodeRequest "Grace Wanjiku" "123"),
    .update (shortcodeRequest "David Ochieng" "123") 2].foldl
      (InfluencersRequest.mongoStep plainMongo) .empty) := by
  refine @shortcodes_unique plainMongo .empty List.Pairwise.nil _ fun request member => ?_
  simp only [List.mem_cons, List.not_mem_nil, or_false] at member
  rcases member with rfl | rfl | rfl | rfl | rfl
  · exact shortcodeRequest_textual _ _
  · exact shortcodeRequest_textual _ _
  · trivial
  · exact shortcodeRequest_textual _ _
  · exact shortcodeRequest_textual _ _

end UssdCredit
