import ServerComponents.Relational.RecursiveUnion
import ServerComponents.Rest.EndpointAuthHelper

/-!
# The readers of permissions

The guard of an endpoint, the list that is sent to the client, and the closure of
the implications.  The guard and the list walk the roles and their grants
themselves.
-/

namespace ServerComponents
namespace Rest

open Relational

namespace TableHelpers

variable {s : Schema} (engine : Engine s) (db : Database s)

/-- The two `GetPermission`; `what` names the argument in the exception. -/
def getPermissionBy (column value what : String) : Except Exn KeyValueTable := do
  let row ← DbCrud.lookupRowByValue engine db "permissions" column value
  if row.entries = [] then
    throw (.runtimeError ("Permissions::GetPermission(" ++ what ++ ") - not found"))
  pure row

def getPermissionById (id : Int) : Except Exn KeyValueTable :=
  getPermissionBy engine db "id" (toString id) "id"

def getPermissionByName (name : String) : Except Exn KeyValueTable :=
  getPermissionBy engine db "name" name "name"

def getPersonById (personId : Int) : Except Exn KeyValueTable :=
  DbCrud.getRow engine db "people" "id" (toString personId)

namespace PermissionImplications

/-- The permissions that the edges of this one point to.  `permission_id` is compared
as a number, and NULL joins nothing. -/
def impliedBy (permissionId : Int) : List Int :=
  (db.rows "permission_implications").filterMap (fun row =>
    if engine.equals "permission_implications" "permission_id" (row "permission_id")
        (toString permissionId) then
      (row "implies_permission_id").bind (fun text => (stoll text).toOption)
    else none)

def expandClosure (seedPermissionIds : List Int) : Except Exn (SortedMap Int Unit) := do
  let seeds := seedPermissionIds.foldl (fun result id => result.set id ()) SortedMap.empty
  if seedPermissionIds = [] then
    pure seeds
  else do
    let t ← sqlTable s "permission_implications"
    let rows := recursiveUnion (impliedBy engine db) (db.rows t.tableName).length
      seedPermissionIds
    pure (rows.foldl (fun result id => result.set id ()) seeds)

end PermissionImplications

end TableHelpers

namespace EndpointAuthHelper

variable {s : Schema} (engine : Engine s) (session : Session) (db : Database s)

/-- `Session::ActiveUserHasPermission`; rows behind the first match are not read. -/
def activeUserHasPermission (permissionName : String) : Except Exn Bool := do
  if session.isLoggedIn then
    let pRow ← TableHelpers.getPermissionByName engine db permissionName
    let targetPermId ← (do stoll (← pRow.at "id"))
    let assignments ←
      TableHelpers.getRoleAssignmentsForPerson engine db session.personId
    findInRoles targetPermId assignments
  else
    throw (.runtimeError "Session::ActiveUserHasPermission - not logged in")
where
  findInGrants (targetPermId : Int) : List KeyValueTable -> Except Exn Bool
    | [] => .ok false
    | rpKv :: rest => do
        let permId ← (do stoll (← rpKv.at "permission_id"))
        if permId = targetPermId then pure true else findInGrants targetPermId rest
  findInRoles (targetPermId : Int) : List KeyValueTable -> Except Exn Bool
    | [] => .ok false
    | kv :: rest => do
        let roleId ← (do stoll (← kv.at "role_id"))
        let rpRows ← TableHelpers.getRolePermissionsForRole engine db roleId
        if ← findInGrants targetPermId rpRows then pure true
        else findInRoles targetPermId rest

def kMissingRequiredPermission : String := "Missing required permission"

def requirePermission (permissionName : String) : Access :=
  if session.isLoggedIn then
    match activeUserHasPermission engine session db permissionName with
    | .ok true => .granted
    | .ok false => .notAuthorized kMissingRequiredPermission
    | .error _ => .notAuthorized kMissingRequiredPermission
  else
    .notAuthenticated "Login required"

end EndpointAuthHelper

namespace PersonHelper

variable {s : Schema} (engine : Engine s) (db : Database s)

def isVerified (person : KeyValueTable) : Except Exn Bool :=
  if person.entries = [] then .ok false
  else do
    let verifiedAt ← person.at "email_verified_at"
    pure (verifiedAt ≠ "")

/-- A grant adds the name of its permission. -/
def addPermissionName (uniquePerms : SortedMap String Unit) (rp : KeyValueTable) :
    Except Exn (SortedMap String Unit) := do
  let permId ← (do stoll (← rp.at "permission_id"))
  let pRow ← TableHelpers.getPermissionById engine db permId
  let name ← pRow.at "name"
  pure (uniquePerms.set name ())

def getPermissionsForUser (personId : Int) : Except Exn (List String) := do
  let person ← TableHelpers.getPersonById engine db personId
  if ← isVerified person then
    let assignments ← TableHelpers.getRoleAssignmentsForPerson engine db personId
    let uniquePerms ← assignments.foldlM (fun uniquePerms kv => do
      let roleId ← (do stoll (← kv.at "role_id"))
      let rpRows ← TableHelpers.getRolePermissionsForRole engine db roleId
      rpRows.foldlM (addPermissionName engine db) uniquePerms) SortedMap.empty
    pure uniquePerms.keys
  else
    throw (.runtimeError "PersonHelper::GetPermissionsForUser - person not found")

end PersonHelper

end Rest
end ServerComponents
