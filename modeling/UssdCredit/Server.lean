import UssdCredit.Library.Interleaving
import UssdCredit.Runtime

/-! The state of the server and its atomic operations: one call of the database driver, or
one access to a list the process keeps in memory. Handlers are programs over them. -/

namespace UssdCredit

inductive CollectionName where
  | users
  | influencers
  | subscribers
  deriving DecidableEq

/-- A record of INFLUENCERS_DB; the initial one lacks the last two keys. -/
structure Influencer where
  id : Int
  name : Value
  phone : Value
  received : Value
  imageUrl : Value
  ussdShortcode : Option Value
  createdAt : Option String
  deriving DecidableEq

/-- A record of SUBSCRIBERS_DB. -/
structure Subscription where
  id : Int
  influencerId : Value
  fanPhone : Value
  amount : PyFloat
  frequency : Value
  isActive : Bool
  createdAt : String
  updatedAt : String
  deriving DecidableEq

structure Server where
  collection : CollectionName → Collection
  influencersDb : List Influencer
  subscribersDb : List Subscription

namespace Server

abbrev users (s : Server) : Collection := s.collection .users

def setCollection (s : Server) (name : CollectionName) (c : Collection) : Server :=
  { s with collection := fun other => if other = name then c else s.collection other }

@[simp] theorem setCollection_collection (s : Server) (name other : CollectionName)
    (c : Collection) : (s.setCollection name c).collection other =
      if other = name then c else s.collection other := rfl

end Server

inductive Op where
  | find (name : CollectionName) (filter : Filter)
  | findOne (name : CollectionName) (filter : Filter)
  | countDocuments (name : CollectionName) (filter : Filter)
  | insertOne (name : CollectionName) (oid : Nat) (fields : Fields)
  | updateOne (name : CollectionName) (filter : Filter) (update : Fields)
  | readInfluencers
  | writeInfluencers (db : List Influencer)
  | readSubscribers
  | writeSubscribers (db : List Subscription)

abbrev Op.Result : Op → Type
  | .find _ _ => List Document
  | .findOne _ _ => Option Document
  | .countDocuments _ _ => Nat
  | .insertOne _ _ _ => Unit
  | .updateOne _ _ _ => Unit
  | .readInfluencers => List Influencer
  | .writeInfluencers _ => Unit
  | .readSubscribers => List Subscription
  | .writeSubscribers _ => Unit

/-- A write replaces the collection, or fails and leaves it as it was. -/
def Server.write (s : Server) (name : CollectionName) :
    Except PyExn Collection → Except PyExn Unit × Server
  | .ok c => (.ok (), s.setCollection name c)
  | .error e => (.error e, s)

def exec : Library.Program.Exec Op Op.Result PyExn Server
  | .find name filter, s => ((s.collection name).find filter, s)
  | .findOne name filter, s => ((s.collection name).findOne filter, s)
  | .countDocuments name filter, s => ((s.collection name).countDocuments filter, s)
  | .insertOne name oid fields, s => s.write name ((s.collection name).insertOne oid fields)
  | .updateOne name filter update, s => s.write name ((s.collection name).updateOne filter update)
  | .readInfluencers, s => (.ok s.influencersDb, s)
  | .writeInfluencers db, s => (.ok (), { s with influencersDb := db })
  | .readSubscribers, s => (.ok s.subscribersDb, s)
  | .writeSubscribers db, s => (.ok (), { s with subscribersDb := db })

/-- A handler: a program over the server's operations that may raise. -/
abbrev Prog := Library.Program Op Op.Result PyExn

def perform (op : Op) : Prog op.Result := Library.Program.perform op

def raise {α : Type} (e : PyExn) : Prog α := .done (.error e)

/-! How each operation runs, and what is to be shown of a program that starts with it. -/

section Rules

open Library.Program

variable {α : Type} {s : Server} {Q : Except PyExn α → Server → Prop} {name : CollectionName}
  {filter : Filter}

theorem exec_findOne (encodes : filter.bsonError = none) :
    exec (.findOne name filter) s = (.ok ((s.collection name).first? filter), s) := by
  change ((s.collection name).findOne filter, s) = _
  rw [Collection.findOne, encodes]

theorem exec_findOne_error {e : PyExn} (refused : filter.bsonError = some e) :
    exec (.findOne name filter) s = (.error e, s) := by
  change ((s.collection name).findOne filter, s) = _
  rw [Collection.findOne, refused]

theorem exec_countAll :
    exec (.countDocuments name []) s = (.ok (s.collection name).docs.length, s) := by
  change ((s.collection name).countDocuments [], s) = _
  rw [Collection.countDocuments_nil]

theorem exec_insertOne {oid : Nat} {fields : Fields} {c : Collection}
    (inserted : (s.collection name).insertOne oid fields = .ok c) :
    exec (.insertOne name oid fields) s = (.ok (), s.setCollection name c) := by
  change s.write name ((s.collection name).insertOne oid fields) = _
  rw [inserted]
  rfl

theorem exec_insertOne_error {oid : Nat} {fields : Fields} {e : PyExn}
    (refused : (s.collection name).insertOne oid fields = .error e) :
    exec (.insertOne name oid fields) s = (.error e, s) := by
  change s.write name ((s.collection name).insertOne oid fields) = _
  rw [refused]
  rfl

theorem exec_updateOne {update : Fields} {c : Collection}
    (updated : (s.collection name).updateOne filter update = .ok c) :
    exec (.updateOne name filter update) s = (.ok (), s.setCollection name c) := by
  change s.write name ((s.collection name).updateOne filter update) = _
  rw [updated]
  rfl

theorem exec_updateOne_error {update : Fields} {e : PyExn}
    (refused : (s.collection name).updateOne filter update = .error e) :
    exec (.updateOne name filter update) s = (.error e, s) := by
  change s.write name ((s.collection name).updateOne filter update) = _
  rw [refused]
  rfl

theorem run_findOne (encodes : filter.bsonError = none) (f : Option Document → Prog α) :
    (perform (.findOne name filter) >>= f).run exec s =
      (f ((s.collection name).first? filter)).run exec s :=
  run_perform_bind (exec_findOne encodes) f

theorem run_countAll (f : Nat → Prog α) :
    (perform (.countDocuments name []) >>= f).run exec s =
      (f (s.collection name).docs.length).run exec s :=
  run_perform_bind exec_countAll f

theorem run_insertOne {oid : Nat} {fields : Fields} {c : Collection}
    (inserted : (s.collection name).insertOne oid fields = .ok c) (f : Unit → Prog α) :
    (perform (.insertOne name oid fields) >>= f).run exec s =
      (f ()).run exec (s.setCollection name c) :=
  run_perform_bind (exec_insertOne inserted) f

theorem run_updateOne {update : Fields} {c : Collection}
    (updated : (s.collection name).updateOne filter update = .ok c) (f : Unit → Prog α) :
    (perform (.updateOne name filter update) >>= f).run exec s =
      (f ()).run exec (s.setCollection name c) :=
  run_perform_bind (exec_updateOne updated) f

theorem run_updateOne_error {update : Fields} {e : PyExn}
    (refused : (s.collection name).updateOne filter update = .error e) (f : Unit → Prog α) :
    (perform (.updateOne name filter update) >>= f).run exec s = (.error e, s) :=
  run_perform_error (exec_updateOne_error refused) f

theorem run_readInfluencers (f : List Influencer → Prog α) :
    (perform .readInfluencers >>= f).run exec s = (f s.influencersDb).run exec s := rfl

theorem run_readSubscribers (f : List Subscription → Prog α) :
    (perform .readSubscribers >>= f).run exec s = (f s.subscribersDb).run exec s := rfl

theorem post_findOne {f : Option Document → Prog α}
    (failed : ∀ e, filter.bsonError = some e → Q (.error e) s)
    (passed : filter.bsonError = none → Post exec (f ((s.collection name).first? filter)) s Q) :
    Post exec (perform (.findOne name filter) >>= f) s Q := by
  cases encodes : filter.bsonError with
  | none =>
    have entered := passed encodes
    unfold Post at *
    rwa [run_findOne encodes]
  | some e =>
    apply post_perform_bind
    · intro e' result
      rw [exec_findOne_error encodes] at result ⊢
      rw [← Except.error.inj result]
      exact failed e encodes
    · intro found result
      rw [exec_findOne_error encodes] at result
      cases result

theorem post_countDocuments {f : Nat → Prog α} (failed : ∀ e, Q (.error e) s)
    (passed : ∀ count, (s.collection name).countDocuments filter = .ok count →
      Post exec (f count) s Q) :
    Post exec (perform (.countDocuments name filter) >>= f) s Q :=
  post_perform_bind (fun e _ => failed e) passed

theorem post_insertOne {oid : Nat} {fields : Fields} {f : Unit → Prog α}
    (failed : ∀ e, Q (.error e) s)
    (passed : ∀ c, (s.collection name).insertOne oid fields = .ok c →
      Post exec (f ()) (s.setCollection name c) Q) :
    Post exec (perform (.insertOne name oid fields) >>= f) s Q := by
  cases inserted : (s.collection name).insertOne oid fields with
  | ok c =>
    have entered := passed c inserted
    unfold Post at *
    rwa [run_insertOne inserted]
  | error e =>
    have raised := exec_insertOne_error inserted
    apply post_perform_bind
    · intro e' _
      rw [raised]
      exact failed e'
    · intro _ result
      rw [raised] at result
      cases result

theorem post_updateOne {update : Fields} {f : Unit → Prog α} (failed : ∀ e, Q (.error e) s)
    (passed : ∀ c, (s.collection name).updateOne filter update = .ok c →
      Post exec (f ()) (s.setCollection name c) Q) :
    Post exec (perform (.updateOne name filter update) >>= f) s Q := by
  cases updated : (s.collection name).updateOne filter update with
  | ok c =>
    have entered := passed c updated
    unfold Post at *
    rwa [run_updateOne updated]
  | error e =>
    have raised := exec_updateOne_error updated
    apply post_perform_bind
    · intro e' _
      rw [raised]
      exact failed e'
    · intro _ result
      rw [raised] at result
      cases result

theorem post_readInfluencers {f : List Influencer → Prog α}
    (passed : Post exec (f s.influencersDb) s Q) :
    Post exec (perform .readInfluencers >>= f) s Q := passed

theorem post_writeInfluencers {db : List Influencer} {f : Unit → Prog α}
    (passed : Post exec (f ()) { s with influencersDb := db } Q) :
    Post exec (perform (.writeInfluencers db) >>= f) s Q := passed

theorem post_readSubscribers {f : List Subscription → Prog α}
    (passed : Post exec (f s.subscribersDb) s Q) :
    Post exec (perform .readSubscribers >>= f) s Q := passed

theorem post_writeSubscribers {db : List Subscription} {f : Unit → Prog α}
    (passed : Post exec (f ()) { s with subscribersDb := db } Q) :
    Post exec (perform (.writeSubscribers db) >>= f) s Q := passed

theorem post_pure {a : α} (holds : Q (.ok a) s) : Post exec (pure a : Prog α) s Q := holds

end Rules

/-- A handler run to its end without interruption. -/
def Prog.serve (handler : Prog Response) (s : Server) : Outcome × Server := handler.run exec s

end UssdCredit
