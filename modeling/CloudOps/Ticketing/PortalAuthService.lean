import CloudOps.ReadCommitted.Columns
import CloudOps.Ticketing.TicketIntake

namespace CloudOps.Ticketing.Portal

open CloudOps.ReadCommitted CloudOps.Ticketing.TicketIntake

structure PortalRegisterDto where
  name : String
  email : String
  password : String

-- The columns of a contact that only the portal reads: contacts that come with a ticket
-- have none of them set.
structure ContactAccount where
  passwordHash : Option String
  emailValid : Bool
  deriving DecidableEq

def ContactAccount.blank : ContactAccount := ⟨none, true⟩

abbrev PortalRow := IntakeRow × ContactAccount

-- The salted hash a registration makes of its password, and the token of its contact.
structure PortalRuntime where
  hash : String → String
  signJwt : (sub tenantId : Uuid) → (email : String) → String

structure AuthResult where
  token : String
  id : Uuid
  name : String
  email : String

def toAuthResult (portal : PortalRuntime) (id tenantId : Uuid) (contact : Contact) : AuthResult where
  token := portal.signJwt id tenantId contact.email
  id := id
  name := contact.name
  email := contact.email

-- /^[^\s@]+@[^\s@]+\.[^\s@]+$/: the one @ has something before it, and in what comes after
-- it a dot has something on both sides.
def isEmailValid (email : String) : Bool :=
  let isPart (part : List Char) : Bool := !part.isEmpty && part.all fun c => !isWhiteSpace c && c != '@'
  let user := email.toList.takeWhile fun c => c != '@'
  let domain := email.toList.drop (user.length + 1)
  email.isEmpty || isPart user && isPart domain && (List.range domain.length).any fun index =>
    domain[index]? == some '.' && isPart (domain.take index) && isPart (domain.drop (index + 1))

-- UPDATE contacts SET password_hash, name
def claim (name passwordHash : String) : PortalRow → PortalRow
  | (.contact tenantId row, account) =>
      (.contact tenantId { row with name := name }, { account with passwordHash := some passwordHash })
  | row => row

variable (portal : PortalRuntime) (tenantId : Uuid)

-- PortalAuthService.register
def register (dto : PortalRegisterDto) : Prog IntakeKey PortalRow ServiceError AuthResult := do
  let existing := (← Prog.query fun key row => contactWithEmail tenantId dto.email key row.1).head?
  let passwordHash := portal.hash dto.password
  match existing with
  | some (.generated id, _, account) =>
      if account.passwordHash.any fun hash => hash ≠ "" then
        .throw (.conflict "An account with this email already exists. Log in instead.")
      else
        match ← Prog.update (.generated id) (claim dto.name passwordHash) with
        | some (.contact _ row, _) => return toAuthResult portal id tenantId row
        | _ => .throw (.error "Cannot read properties of undefined (reading 'id')")
  | _ =>
      let contact : Contact := ⟨dto.name, dto.email⟩
      match ← Prog.insertRow (.contact tenantId contact, ⟨some passwordHash, isEmailValid dto.email⟩) with
      | .inserted (.generated id) => return toAuthResult portal id tenantId contact
      | _ => .throw (.error "duplicate key value violates unique constraint")

-- PortalAuthService.login; `compare` is bcrypt's.
def login (compare : String → String → Bool) (email password : String) :
    Prog IntakeKey PortalRow ServiceError AuthResult := do
  match (← Prog.query fun key row => contactWithEmail tenantId email key row.1).head? with
  | some (.generated id, .contact _ row, account) =>
      if (account.passwordHash.filter fun hash => hash ≠ "").any (compare password) then
        return toAuthResult portal id tenantId row
      else .throw (.unauthorized "Invalid email or password")
  | _ => .throw (.unauthorized "Invalid email or password")

inductive ContactRequest where
  | intake (request : IntakeRequest)
  | register (dto : PortalRegisterDto)

structure ContactCall where
  tenantId : Uuid
  reads : TicketStore
  request : ContactRequest

inductive ContactResult where
  | intake (result : IntakeResult)
  | registered (result : AuthResult)

variable (env : Environment) (runtime : Runtime)

-- The transactions that look contacts up by their email, each in its withTenantContext.
-- No index keeps two contacts from having one email.
def contactService : Service IntakeKey PortalRow ServiceError ContactResult ContactCall where
  body call startedAt :=
    match call.request with
    | .intake request =>
        (((intakeService env runtime).body ⟨call.tenantId, call.reads, request⟩ startedAt).withColumns .blank).map
          .intake
    | .register dto => (register portal call.tenantId dto).map .registered
  conflict row other := sameNumber row.1 other.1

end CloudOps.Ticketing.Portal

namespace CloudOps.Ticketing.Portal

open CloudOps.ReadCommitted CloudOps.Ticketing.TicketIntake

-- The contact of the tenant with this id and email, and its account.
def HasContact (contacts : Table IntakeKey PortalRow) (tenantId id : Uuid) (contact : Contact)
    (account : ContactAccount) : Prop :=
  contacts.lookup (.generated id) = some (.contact tenantId contact, account)

variable {portal : PortalRuntime} {tenantId : Uuid} {conflict : PortalRow → PortalRow → Bool}
  {solo : Solo IntakeKey PortalRow} {now : Nat} {contacts writes : Table IntakeKey PortalRow} {result : AuthResult}

theorem hasContact_of_query {email : String} {id : Uuid} {row : IntakeRow} {account : ContactAccount}
    (h : (solo.order.apply ((∅ ∪ contacts : Table IntakeKey PortalRow).rows.filter fun row =>
      contactWithEmail tenantId email row.1 row.2.1)).head? = some (.generated id, row, account)) :
    ∃ contact, row = .contact tenantId contact ∧ contact.email = email ∧
      HasContact contacts tenantId id contact account := by
  have hmem := (solo.order.perm _).mem_iff.mp (List.mem_of_mem_head? h)
  obtain ⟨hrow, hmatch⟩ := List.mem_filter.mp hmem
  rw [AList.empty_union, Table.mem_rows] at hrow
  cases row with
  | contact owner contact =>
      simp only [contactWithEmail, Bool.and_eq_true, beq_iff_eq] at hmatch
      obtain ⟨rfl, hemail⟩ := hmatch
      exact ⟨contact, rfl, hemail, hrow⟩
  | counter _ | cursor _ | ticket _ _ _ | message _ _ _ | attachment _ _ | activity _ _ => simp [contactWithEmail] at hmatch

-- Who logs in has presented the password of the contact with that email.
theorem login_alone {compare : String → String → Bool} {email password : String}
    (h : (login portal tenantId compare email password).alone conflict solo now ∅ contacts =
      .returned result writes) :
    ∃ id contact account hash, result = toAuthResult portal id tenantId contact ∧ contact.email = email ∧
      HasContact contacts tenantId id contact account ∧ account.passwordHash = some hash ∧
      compare password hash = true ∧ writes = ∅ := by
  simp only [login, Prog.query_bind, Prog.alone] at h
  split at h
  · rename_i id owner row account hhead
    obtain ⟨contact, hcontact, hemail, hin⟩ := hasContact_of_query hhead
    obtain ⟨rfl, rfl⟩ := IntakeRow.contact.inj hcontact
    split at h
    · rename_i hany
      obtain ⟨hash, hhash, hcompare⟩ := (Option.any_eq_true _ _).mp hany
      obtain ⟨hsome, -⟩ := Option.filter_eq_some_iff.mp hhash
      obtain ⟨rfl, rfl⟩ := Outcome.returned.inj h
      exact ⟨id, row, account, hash, rfl, hemail, hin, hsome, hcompare, rfl⟩
    · cases h
  · cases h

-- Who registers has the contact with that email from then on, with the password's hash.
theorem register_alone {dto : PortalRegisterDto}
    (h : (register portal tenantId dto).alone conflict solo now ∅ contacts = .returned result writes) :
    ∃ id contact account, result = toAuthResult portal id tenantId contact ∧ contact.email = dto.email ∧
      HasContact (writes ∪ contacts) tenantId id contact account ∧
      account.passwordHash = some (portal.hash dto.password) := by
  simp only [register, Prog.query_bind, Prog.alone] at h
  split at h
  · rename_i id row account hhead
    obtain ⟨contact, hcontact, hemail, hin⟩ := hasContact_of_query hhead
    cases hcontact
    split at h
    · cases h
    · rw [Prog.update_bind, Prog.alone, AList.empty_union, hin] at h
      simp only [Option.map_some, claim] at h
      split at h
      · cases h
      · obtain ⟨rfl, rfl⟩ := Outcome.returned.inj h
        exact ⟨id, _, _, rfl, hemail, Table.lookup_union_own (AList.lookup_insert _) _, rfl⟩
  · simp only [Prog.insertRow_bind, Prog.alone] at h
    split at h
    · simp [Prog.afterFailure] at h
    · split at h
      · rename_i id hid
        obtain ⟨rfl, rfl⟩ := Outcome.returned.inj h
        rw [InsertResult.inserted.injEq] at hid
        rw [hid]
        exact ⟨id, _, _, rfl, rfl, Table.lookup_union_own (AList.lookup_insert _) _, rfl⟩
      · cases h

end CloudOps.Ticketing.Portal
