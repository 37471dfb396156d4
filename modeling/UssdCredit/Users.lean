import UssdCredit.Server

/-! The user routes without authentication: the search behind the subscription form, and
the creation of a contact. -/

namespace UssdCredit.Users

variable (req : Http)

/-- What a search asks the database for. -/
def searchFilter : Filter := req.argFilter "phone" ++ req.argFilter "pin"

/-- Every field but the `_id` is handed out. -/
def searchUsers : Prog Response := do
  let docs ← perform (.find .users (searchFilter req))
  return jsonify 200 (.list (docs.map fun d => .dict d.fields))

theorem run_searchUsers (s : Server) :
    (searchUsers req).run exec s =
      (.ok (jsonify 200 (.list ((s.users.docs.filter (·.satisfies (searchFilter req))).map
        fun d => .dict d.fields))), s) := by
  have encodes : (searchFilter req).bsonError = none := by
    unfold searchFilter
    rcases req.argFilter_cases "phone" with phone | ⟨phone, -, -, phone_given⟩ <;>
      rcases req.argFilter_cases "pin" with pin | ⟨pin, -, -, pin_given⟩ <;>
      simp_all [Filter.bsonError, Value.bsonError]
  have found : exec (.find .users (searchFilter req)) s =
      (.ok (s.users.docs.filter (·.satisfies (searchFilter req))), s) := by
    simp only [exec, Collection.find, encodes]
  exact Library.Program.run_perform_bind found _

def createUser : Prog Response := do
  let payload ← req.getJson
  let phone ← payload.pyGet "phone" .null
  let role ← payload.pyGet "role" (.str "subscriber")
  let pin ← payload.pyGet "pin" .null
  let balance ← payload.pyGet "balance" .null
  let fields : Fields := [("phone", phone), ("role", role), ("pin", pin), ("balance", balance)]
  perform (.insertOne .users req.oid fields)
  -- The driver has put the `_id` into the dict that is sent back.
  let doc ← (Document.mk req.oid fields).load.toJson
  return jsonify 201 doc

end UssdCredit.Users
