import Registrar.Catalog.Basic

/-!
# The Built-in Catalog

The collections that the service reads and writes: the records it administers,
the links between them, and three views that join the tables already. Secrets,
such as the password of a user and the text of a token, are not among the
columns.

## Main definitions

* `Collection`: The names of the collections.
* `Catalog.builtin`: Their tables.
-/

namespace Registrar

namespace Collection

def groups : String := "groups"
def users : String := "users"
def projects : String := "projects"
def notes : String := "notes"
def submitNodes : String := "submit_nodes"
def tokens : String := "tokens"
def userGroups : String := "user_groups"
def userProjects : String := "user_projects"
def userNotes : String := "user_notes"
def userSubmits : String := "user_submits"
def joinedProjects : String := "joined_projects"
def piProjects : String := "pi_projects"
def userSubmitNodes : String := "user_submit_nodes"

end Collection

namespace Catalog

/-- A table of the public schema that bears the name of its collection and whose
    columns bear their keys. -/
def publicTable (name primaryKey : String) (columns : List (String × ColumnType)) :
    String × Table :=
  (name, ⟨"public", name, primaryKey,
    Keyed.ofList (columns.map fun column => (column.1, ⟨column.1, column.2⟩))⟩)

/-- The table of `groups`. -/
def groups : String × Table :=
  publicTable Collection.groups "id"
    [("id", .integer), ("name", .string), ("point_of_contact", .string), ("unix_gid", .integer),
     ("has_groupdir", .boolean)]

/-- The table of `users`. -/
def users : String × Table :=
  publicTable Collection.users "id"
    [("id", .integer), ("username", .string), ("name", .string), ("email1", .string),
     ("email2", .string), ("netid", .string), ("netid_exp_datetime", .timestamp),
     ("phone1", .string), ("phone2", .string), ("is_admin", .boolean), ("active", .boolean),
     ("date", .timestamp), ("unix_uid", .integer), ("position", .enum)]

/-- The table of `projects`. -/
def projects : String × Table :=
  publicTable Collection.projects "id"
    [("id", .integer), ("name", .string), ("pi", .integer), ("staff1", .string),
     ("staff2", .string), ("status", .string), ("access", .string),
     ("accounting_group", .string), ("url", .string), ("date", .timestamp), ("ticket", .integer),
     ("last_contact", .timestamp)]

/-- The table of `notes`. -/
def notes : String × Table :=
  publicTable Collection.notes "id"
    [("id", .integer), ("ticket", .string), ("note", .string), ("author", .string),
     ("date", .timestamp)]

/-- The table of `submit_nodes`. -/
def submitNodes : String × Table :=
  publicTable Collection.submitNodes "id"
    [("id", .integer), ("name", .string)]

/-- The table of `tokens`. -/
def tokens : String × Table :=
  publicTable Collection.tokens "id"
    [("id", .integer), ("created_by", .integer), ("description", .string),
     ("created_at", .timestamp), ("expires_at", .timestamp)]

/-- The table of `user_groups`. -/
def userGroups : String × Table :=
  publicTable Collection.userGroups "id"
    [("id", .integer), ("group_id", .integer), ("user_id", .integer)]

/-- The table of `user_projects`. -/
def userProjects : String × Table :=
  publicTable Collection.userProjects "id"
    [("id", .integer), ("project_id", .integer), ("user_id", .integer), ("role", .enum),
     ("is_primary", .boolean)]

/-- The table of `user_notes`. -/
def userNotes : String × Table :=
  publicTable Collection.userNotes "id"
    [("id", .integer), ("project_id", .integer), ("note_id", .integer), ("user_id", .integer)]

/-- The table of `user_submits`. -/
def userSubmits : String × Table :=
  publicTable Collection.userSubmits "id"
    [("id", .integer), ("user_id", .integer), ("submit_node_id", .integer),
     ("for_auth_netid", .boolean), ("disk_quota", .integer), ("hpc_diskquota", .integer),
     ("hpc_inodequota", .integer), ("hpc_joblimit", .integer), ("hpc_corelimit", .integer),
     ("hpc_fairshare", .integer)]

/-- The view of `joined_projects`. -/
def joinedProjects : String × Table :=
  publicTable Collection.joinedProjects "user_id"
    [("user_id", .integer), ("project_id", .integer), ("project_name", .string),
     ("project_staff1", .string), ("project_staff2", .string), ("project_status", .string),
     ("project_last_contact", .timestamp), ("project_accounting_group", .string),
     ("is_primary", .boolean), ("role", .enum), ("username", .string), ("name", .string),
     ("email1", .string), ("email2", .string), ("netid", .string),
     ("netid_exp_datetime", .timestamp), ("phone1", .string), ("phone2", .string),
     ("is_admin", .boolean), ("active", .boolean), ("date", .timestamp), ("unix_uid", .integer),
     ("position", .enum), ("last_note_ticket", .string)]

/-- The view of `pi_projects`. -/
def piProjects : String × Table :=
  publicTable Collection.piProjects "project_id"
    [("user_id", .integer), ("username", .string), ("name", .string), ("project_id", .integer),
     ("project_name", .string)]

/-- The view of `user_submit_nodes`. -/
def userSubmitNodes : String × Table :=
  publicTable Collection.userSubmitNodes "id"
    [("id", .integer), ("user_id", .integer), ("submit_node_id", .integer),
     ("submit_node_name", .string), ("for_auth_netid", .boolean), ("disk_quota", .integer),
     ("hpc_diskquota", .integer), ("hpc_inodequota", .integer), ("hpc_joblimit", .integer),
     ("hpc_corelimit", .integer), ("hpc_fairshare", .integer)]

/-- The tables of the collections that the service reads and writes. -/
def builtin : Catalog :=
  ⟨Sorted.ofList
    [groups, users, projects, notes, submitNodes, tokens, userGroups, userProjects,
     userNotes, userSubmits, joinedProjects, piProjects, userSubmitNodes]⟩

end Catalog

end Registrar
