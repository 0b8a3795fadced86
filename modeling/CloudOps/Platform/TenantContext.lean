import CloudOps.Pool.Session
import CloudOps.ServiceError

namespace CloudOps.Platform.TenantContext

open CloudOps.Pool (Statement Session Settings Reply Prog)

inductive Setting where
  | currentTenant
  | publicStatusRead
  | other (name : String)
  deriving DecidableEq

-- A statement as it goes to the connection, with the tenant of the withTenantContext call
-- whose callback issued it, if one did.
structure Issued where
  issuer : Option String
  statement : Statement Setting

-- A callback that awaits every statement it issues: its statements in the order the connection
-- takes them, and whatever it makes of the answers. One that throws while a branch of a
-- Promise.all has statements left, which then come after the ROLLBACK, is left out.
inductive Work (Rows R : Type) where
  | done (result : Except ServiceError R)
  | query (statement : Statement Setting) (next : Except ServiceError Rows → Work Rows R)

abbrev RunnerM (Rows : Type) := Prog Issued Rows ServiceError

variable {Rows R : Type}

def Work.issue (tenantId : String) : Work Rows R → RunnerM Rows R
  | done result => .done result
  | query statement next => .perform ⟨some tenantId, statement⟩ fun answer => (next answer).issue tenantId

-- The methods of the query runner.
def connect : RunnerM Rows Unit := .acquire .done

def query (statement : Statement Setting) : RunnerM Rows Rows := .perform ⟨none, statement⟩ .done

-- A statement whose rows no one reads.
def execute (statement : Statement Setting) : RunnerM Rows Unit :=
  .perform ⟨none, statement⟩ fun answer => .done (answer.map fun _ => ())

def release : RunnerM Rows Unit := .release (.done (.ok ()))

def withTenantContext (tenantId : String) (work : Work Rows R) : RunnerM Rows R := do
  connect
  execute .startTransaction
  try
    execute (.setConfig .currentTenant tenantId true)
    let result ← work.issue tenantId
    execute .commit
    pure result
  catch error =>
    execute .rollback
    throw error
  finally
    release

structure StatusPage where
  id : String
  tenantId : String
  title : String
  description : Option String

-- How the rows of a query are read: [page], the first of them.
variable (firstPage : Rows → Option StatusPage)

-- The callback of the second part reads what the page shows, in the tenant's context.
def getPublicStatus (slug : String) (components : StatusPage → Work Rows R) : RunnerM Rows R := do
  connect
  execute .startTransaction
  let rows ←
    try
      execute (.setConfig .publicStatusRead "true" true)
      let rows ← query (.plain
        s!"SELECT id, tenant_id, title, description FROM status_pages WHERE slug = {slug} AND is_public = true")
      execute .commit
      pure rows
    catch error =>
      execute .rollback
      throw error
    finally
      release
  match firstPage rows with
  | none => throw (.notFound s!"No public status page at \"{slug}\"")
  | some page => withTenantContext page.tenantId (components page)

inductive Call (Rows R : Type) where
  | withTenantContext (tenantId : String) (work : Work Rows R)
  | getPublicStatus (slug : String) (components : StatusPage → Work Rows R)

def Call.body : Call Rows R → RunnerM Rows R
  | withTenantContext tenantId work => TenantContext.withTenantContext tenantId work
  | getPublicStatus slug components => TenantContext.getPublicStatus firstPage slug components

-- A callback's statement that the server executes: whose it is, and the settings in
-- effect as it begins.
structure Executed where
  tenantId : String
  settings : Settings Setting

def connections (Rows : Type) :
    Pool.Kind (Session Setting) Issued (Reply Rows ServiceError) Rows ServiceError Executed where
  fresh := .new
  perform session issued reply :=
    session.perform (.error "current transaction is aborted, commands ignored until end of transaction block")
      issued.statement reply
  observe session issued :=
    if session.rejects issued.statement then none
    else issued.issuer.map fun tenantId => ⟨tenantId, session.inEffect⟩
  unavailable := .error "Query runner already released. Cannot run queries anymore."

abbrev PoolState (Rows R : Type) := Pool.State (Session Setting) Issued Rows ServiceError Executed R

abbrev PoolEvent (Rows R : Type) := Pool.Event (Call Rows R) (Reply Rows ServiceError) ServiceError

def step : PoolState Rows R → PoolEvent Rows R → PoolState Rows R :=
  Pool.State.step (connections Rows) (Call.body firstPage)

end CloudOps.Platform.TenantContext
