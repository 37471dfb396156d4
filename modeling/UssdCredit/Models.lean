import UssdCredit.Python

/-! The SQLAlchemy models: their tables, what these refer to, and which classes are registered
together. A name or a table is looked up among the models of one `SQLAlchemy()` only. -/

namespace UssdCredit

/-- The `SQLAlchemy()` whose `db.Model` a class extends. `models/user.py` makes one of its own. -/
inductive ModelBase where
  | extensions
  | user
  deriving DecidableEq

/-- `db.ForeignKey("table.target")` of a column. -/
structure ForeignKey where
  column : String
  table : String
  target : String

/-- A model class: where it is defined, its table, and the classes that its relationships name. -/
structure SqlModel where
  name : String
  path : String
  base : ModelBase
  table : String
  foreignKeys : List ForeignKey
  relationships : List String

/-- The classes in the order in which `app.models` imports them. -/
def appModels : List SqlModel := [
  { name := "User", path := "app.models.user.User", base := .user, table := "users"
    foreignKeys := []
    relationships := ["Subscription", "Payment", "Withdrawal"] },
  { name := "Influencer", path := "app.models.influencer.Influencer", base := .extensions
    table := "influencers"
    foreignKeys := [⟨"user_id", "users", "id"⟩]
    relationships := ["User", "Subscription"] },
  { name := "Subscription", path := "app.models.subscription.Subscription", base := .extensions
    table := "subscriptions"
    foreignKeys := [⟨"influencer_id", "influencers", "id"⟩]
    relationships := ["Influencer", "Payment"] },
  { name := "Payment", path := "app.models.payment.Payment", base := .extensions
    table := "payments"
    foreignKeys := [⟨"subscription_id", "subscriptions", "id"⟩]
    relationships := ["Subscription"] },
  { name := "Withdrawal", path := "app.models.withdrawal.Withdrawal", base := .extensions
    table := "withdrawals"
    foreignKeys := [⟨"influencer_id", "influencers", "id"⟩]
    relationships := [] },
  { name := "OtpCode", path := "app.models.otp.OtpCode", base := .extensions
    table := "otp_codes"
    foreignKeys := []
    relationships := [] }]

/-- The models of one `SQLAlchemy()`. -/
def ModelBase.models (base : ModelBase) : List SqlModel := appModels.filter (·.base = base)

section

variable (models : List SqlModel)

/-- A foreign key of the model to a table that none of the models has. -/
def danglingKey (model : SqlModel) : Option PyExn :=
  model.foreignKeys.findSome? fun key =>
    if key.table ∈ models.map SqlModel.table then none
    else some ⟨.noReferencedTableError, s!"Foreign key associated with column " ++
      s!"'{model.table}.{key.column}' could not find table '{key.table}' with which to generate " ++
      s!"a foreign key to target column '{key.target}'"⟩

/-- `create_all()` beside the tables that are there: the new ones. Before it creates the first of them
it follows their foreign keys. -/
def createAll (present : List String) : Except PyExn (List String) :=
  let missing := models.filter (·.table ∉ present)
  match missing.findSome? (danglingKey models) with
  | some e => .error e
  | none => .ok (missing.map SqlModel.table)

/-- What the first query raises: the mappers are configured then, and look the classes of their
relationships up. -/
def mapperError : Option PyExn :=
  models.findSome? fun model => model.relationships.findSome? fun target =>
    if target ∈ models.map SqlModel.name then none
    else some ⟨.invalidRequestError, s!"When initializing mapper Mapper[{model.name}({model.table})], " ++
      s!"expression '{target}' failed to locate a name ('{target}'). If this is a class name, consider " ++
      s!"adding this relationship() to the <class '{model.path}'> class after both dependent classes " ++
      s!"have been defined."⟩

end

theorem createAll_error_iff {models : List SqlModel} {present : List String} :
    (∃ e, createAll models present = .error e) ↔
      ∃ model ∈ models, model.table ∉ present ∧ danglingKey models model ≠ none := by
  have search := @List.findSome?_eq_none_iff _ _ (danglingKey models) (models.filter (·.table ∉ present))
  unfold createAll
  dsimp only
  generalize (models.filter (·.table ∉ present)).findSome? (danglingKey models) = found at search ⊢
  cases found with
  | some e =>
    refine ⟨fun _ => ?_, fun _ => ⟨e, rfl⟩⟩
    by_contra resolved
    push Not at resolved
    have none := search.mpr fun model member => by
      obtain ⟨present, missing⟩ := List.mem_filter.mp member
      exact resolved model present (of_decide_eq_true missing)
    cases none
  | none =>
    constructor
    · rintro ⟨e, raised⟩
      cases raised
    · rintro ⟨model, member, missing, dangles⟩
      refine absurd (search.mp rfl model ?_) dangles
      exact List.mem_filter.mpr ⟨member, decide_eq_true missing⟩

/-- Only the table of the influencers refers to one that is registered elsewhere. -/
theorem createAll_extensions_error_iff {present : List String} :
    (∃ e, createAll ModelBase.extensions.models present = .error e) ↔ "influencers" ∉ present := by
  have dangling : ∀ model ∈ ModelBase.extensions.models,
      danglingKey ModelBase.extensions.models model ≠ none ↔ model.table = "influencers" := by decide
  rw [createAll_error_iff]
  constructor
  · rintro ⟨model, member, missing, dangles⟩
    rwa [(dangling model member).mp dangles] at missing
  · intro missing
    obtain ⟨model, member, table⟩ : ∃ model ∈ ModelBase.extensions.models, model.table = "influencers" := by
      decide
    exact ⟨model, member, table ▸ missing, (dangling model member).mpr table⟩

/-- The mappers are never configured: `User` is not registered with the influencers. -/
theorem mapperError_extensions : ∃ e, mapperError ModelBase.extensions.models = some e :=
  Option.isSome_iff_exists.mp (by decide)

end UssdCredit
