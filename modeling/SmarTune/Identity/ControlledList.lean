import SmarTune.Balancer.Registry
import SmarTune.Library.Runs

/-!
# The list of controlled apps

Four requests write the `controlled_apps` of the configuration.  Each of them
copies the list first, checks its copy, and writes later: one appends, two
replace the whole list by their changed copy, one removes from the list as it
is.
-/

namespace SmarTune

/-- An entry of `controlled_apps`. -/
structure ControlledEntry where
  name : String
  id : String
  commandline : String
  bpfName : List String
  processNames : List String
  deriving DecidableEq

/-- Names as the matching compares them. -/
def loweredNames (names : List String) : List String :=
  (names.filter (· ≠ "")).map lowerCase

/-- Two entries share no identity. -/
structure ControlledEntry.Apart (first second : ControlledEntry) : Prop where
  id : first.id ≠ second.id
  name : lowerCase first.name ≠ lowerCase second.name
  bpfName : ∀ name ∈ loweredNames first.bpfName,
    name ∉ loweredNames second.bpfName
  processNames : ∀ name ∈ loweredNames first.processNames,
    name ∉ loweredNames second.processNames

instance : DecidableRel ControlledEntry.Apart := fun first second =>
  decidable_of_iff
    (first.id ≠ second.id ∧ lowerCase first.name ≠ lowerCase second.name ∧
      (∀ name ∈ loweredNames first.bpfName,
        name ∉ loweredNames second.bpfName) ∧
      ∀ name ∈ loweredNames first.processNames,
        name ∉ loweredNames second.processNames)
    ⟨fun ⟨id, name, bpfName, processNames⟩ =>
        ⟨id, name, bpfName, processNames⟩,
      fun apart => ⟨apart.id, apart.name, apart.bpfName, apart.processNames⟩⟩

/-- The requests, with the data they carry. -/
inductive IdentityRequest
  /-- `new_controlled_app`. -/
  | create (name id commandline : String) (bpfName processNames : List String)
  /-- `merge_controlled_app_processes`. -/
  | merge (id : String) (processNames bpfName : List String)
  /-- `set_controlled_app_processes`. -/
  | set (id : String) (processNames bpfName : List String)
  /-- `purge_controlled_app`. -/
  | purge (id : String)
  deriving DecidableEq

/-! ## Names -/

/-- The loop of `clean_names`: stripped names, each one once. -/
def cleanFrom : List String → List String → List String
  | _, [] => []
  | seen, value :: values =>
    let value := strip value
    if value ≠ "" ∧ lowerCase value ∉ seen then
      value :: cleanFrom (lowerCase value :: seen) values
    else cleanFrom seen values

/-- `clean_names`. -/
def cleanNames (values : List String) : List String := cleanFrom [] values

/-- `merge_names`. -/
def mergeNames (current incoming : List String) : List String :=
  cleanNames (current ++ incoming)

/-! ## Entries -/

/-- The check of `new_controlled_app` against one entry. -/
def ControlledEntry.conflicts (entry item : ControlledEntry) : Bool :=
  item.id = entry.id || lowerCase item.name = lowerCase entry.name ||
    (loweredNames entry.bpfName).any (loweredNames item.bpfName).contains ||
    (loweredNames entry.processNames).any
      (loweredNames item.processNames).contains

def updateFirst (id : String) (change : ControlledEntry → ControlledEntry) :
    List ControlledEntry → List ControlledEntry
  | [] => []
  | entry :: entries =>
    if entry.id = id then change entry :: entries
    else entry :: updateFirst id change entries

def listed (apps : List ControlledEntry) (id : String) : Bool :=
  apps.any fun entry => entry.id = id

/-- The entry that `new_controlled_app` writes. -/
def newEntry (name id commandline : String)
    (bpfName processNames : List String) : ControlledEntry where
  name := strip name
  id := strip id
  commandline := commandline
  bpfName := bpfName
  processNames := processNames

/-- What `merge_controlled_app_processes` makes of an entry. -/
def mergedEntry (processNames bpfName : List String)
    (entry : ControlledEntry) : ControlledEntry :=
  { entry with
    processNames := mergeNames entry.processNames processNames
    bpfName := mergeNames entry.bpfName bpfName }

/-- What `set_controlled_app_processes` makes of an entry. -/
def replacedEntry (processNames bpfName : List String)
    (entry : ControlledEntry) : ControlledEntry :=
  { entry with
    processNames := cleanNames processNames
    bpfName := cleanNames bpfName }

theorem replacedEntry_id (processNames bpfName : List String)
    (entry : ControlledEntry) :
    (replacedEntry processNames bpfName entry).id = entry.id := rfl

namespace IdentityRequest

def appId : IdentityRequest → String
  | .create _ id _ _ _ => strip id
  | .merge id _ _ => strip id
  | .set id _ _ => strip id
  | .purge id => strip id

def effect : IdentityRequest → List ControlledEntry → List ControlledEntry
  | .create name id commandline bpfName processNames, apps =>
    apps ++ [newEntry name id commandline bpfName processNames]
  | .merge id processNames bpfName, apps =>
    updateFirst (strip id) (mergedEntry processNames bpfName) apps
  | .set id processNames bpfName, apps =>
    updateFirst (strip id) (replacedEntry processNames bpfName) apps
  | .purge id, apps => apps.filter fun entry => entry.id ≠ strip id

/-- The request passes its checks on the copy of the list. -/
def accepts (request : IdentityRequest) (copy : List ControlledEntry) : Bool :=
  request.appId ≠ "" &&
    match request with
    | .create name id commandline bpfName processNames =>
      strip name ≠ "" && !copy.any
        (newEntry name id commandline bpfName processNames).conflicts
    | .merge _ _ _ => listed copy request.appId
    | .set _ processNames _ =>
      listed copy request.appId && cleanNames processNames ≠ []
    | .purge _ => listed copy request.appId

/-- What the request writes: the changed copy, or a change of the list as it
is.  A list that would not change is not written. -/
def written (request : IdentityRequest)
    (copy apps : List ControlledEntry) : List ControlledEntry :=
  match request with
  | .create _ _ _ _ _ => request.effect apps
  | .merge _ _ _ => request.effect copy
  | .set _ _ _ => request.effect copy
  | .purge _ => request.effect apps

def DoneIn (request : IdentityRequest) (apps : List ControlledEntry) : Prop :=
  match request with
  | .create name id commandline bpfName processNames =>
    newEntry name id commandline bpfName processNames ∈ apps
  | .merge id processNames bpfName =>
    ∃ entry ∈ apps, entry.id = strip id ∧
      (∀ name ∈ processNames, strip name ≠ "" →
        lowerCase (strip name) ∈ loweredNames entry.processNames) ∧
      ∀ name ∈ bpfName, strip name ≠ "" →
        lowerCase (strip name) ∈ loweredNames entry.bpfName
  | .set id processNames bpfName =>
    ∃ entry ∈ apps, entry.id = strip id ∧
      entry.processNames = cleanNames processNames ∧
      entry.bpfName = cleanNames bpfName
  | .purge id => ∀ entry ∈ apps, entry.id ≠ strip id

end IdentityRequest

/-! ## The list and its requests -/

/-- The list, the requests accepted (the latest first), and what each client's
request has copied. -/
structure ControlledList (Client : Type) where
  apps : List ControlledEntry
  accepted : List IdentityRequest
  pending : Client → Option (IdentityRequest × List ControlledEntry)

/-- What can happen next. -/
inductive ListStep (Client : Type)
  /-- The list is copied. -/
  | read (client : Client) (request : IdentityRequest)
  /-- The copy is checked and the list written; the request may be refused for
  other reasons: a limit in force, a failed write. -/
  | finish (client : Client) (refused : Bool)

namespace ControlledList

variable {Client : Type} [DecidableEq Client]

/-- The service starts with a list. -/
def init (apps : List ControlledEntry) : ControlledList Client :=
  ⟨apps, [], fun _ => none⟩

def goesOn (system : ControlledList Client) (request : IdentityRequest)
    (copy : List ControlledEntry) (refused : Bool) : Bool :=
  !refused && request.accepts copy && request.written copy system.apps ≠
    system.apps

def step (system : ControlledList Client) :
    ListStep Client → ControlledList Client
  | .read client request =>
    { system with
      pending := Function.update system.pending client
        (some (request, system.apps)) }
  | .finish client refused =>
    match system.pending client with
    | some (request, copy) =>
      let pending := Function.update system.pending client none
      if system.goesOn request copy refused then
        ⟨request.written copy system.apps, request :: system.accepted, pending⟩
      else { system with pending }
    | none => system

/-! ## What the requests owe -/

/-- The identities are disjoint, and no accepted change is lost. -/
structure IdentitiesKept (start : List ControlledEntry)
    (system : ControlledList Client) : Prop where
  disjoint : system.apps.Pairwise ControlledEntry.Apart
  /-- The list is what the accepted requests make of the first one, each of
  them on the list that the one before has left. -/
  replayed : system.apps = system.accepted.foldr IdentityRequest.effect start
  /-- A change stays until a later request about the same app. -/
  present : ∀ later request earlier,
    system.accepted = later ++ request :: earlier →
      (∀ other ∈ later, other.appId ≠ request.appId) →
        request.DoneIn system.apps

/-- The names are nobody else's. -/
def NamesFree (apps : List ControlledEntry) (id : String)
    (processNames bpfName : List String) : Prop :=
  ∀ other ∈ apps, other.id ≠ id → (∀ name ∈ processNames, strip name ≠ "" →
      lowerCase (strip name) ∉ loweredNames other.processNames) ∧
    ∀ name ∈ bpfName, strip name ≠ "" →
      lowerCase (strip name) ∉ loweredNames other.bpfName

/-- Two lists differ at most in the identities of one app. -/
def AgreeBut (id : String) (first second : List ControlledEntry) : Prop :=
  updateFirst id (replacedEntry [] []) first =
    updateFirst id (replacedEntry [] []) second

/-- A writer that replaces the list finds it as it copied it, but for what it
replaces; one that appends finds nothing new that its entry conflicts with, and
none gives an app a name of another one. -/
def WriterKeepsApart (copy apps : List ControlledEntry) : IdentityRequest → Prop
  | .create name id commandline bpfName processNames =>
    ∀ other ∈ apps, other ∈ copy ∨
      (newEntry name id commandline bpfName processNames).conflicts other =
        false
  | .merge id processNames bpfName =>
    copy = apps ∧ ∀ entry ∈ apps, entry.id = strip id →
      NamesFree apps (strip id) (entry.processNames ++ processNames)
        (entry.bpfName ++ bpfName)
  | .set id processNames bpfName =>
    AgreeBut (strip id) copy apps ∧
      NamesFree apps (strip id) processNames bpfName
  | .purge _ => True

/-- Every write keeps the entries apart. -/
def KeepsApart (system : ControlledList Client) : ListStep Client → Prop
  | .read _ _ => True
  | .finish client refused =>
    ∀ held ∈ system.pending client, system.goesOn held.1 held.2 refused = true →
        WriterKeepsApart held.2 system.apps held.1

instance
    (apps : List ControlledEntry)
    (id : String)
    (processNames bpfName : List String) :
    Decidable (NamesFree apps id processNames bpfName) :=
  inferInstanceAs (Decidable (∀ other ∈ apps, other.id ≠ id →
    (∀ name ∈ processNames, strip name ≠ "" →
      lowerCase (strip name) ∉ loweredNames other.processNames) ∧
    ∀ name ∈ bpfName, strip name ≠ "" →
      lowerCase (strip name) ∉ loweredNames other.bpfName))

instance
    (copy apps : List ControlledEntry)
    (request : IdentityRequest) :
    Decidable (WriterKeepsApart copy apps request) :=
  match request with
  | .create name id commandline bpfName processNames =>
    inferInstanceAs (Decidable (∀ other ∈ apps, other ∈ copy ∨
      (newEntry name id commandline bpfName processNames).conflicts other =
        false))
  | .merge id processNames bpfName =>
    inferInstanceAs (Decidable (copy = apps ∧ ∀ entry ∈ apps,
      entry.id = strip id → NamesFree apps (strip id)
        (entry.processNames ++ processNames) (entry.bpfName ++ bpfName)))
  | .set id processNames bpfName =>
    inferInstanceAs (Decidable
      (updateFirst (strip id) (replacedEntry [] []) copy =
          updateFirst (strip id) (replacedEntry [] []) apps ∧
        NamesFree apps (strip id) processNames bpfName))
  | .purge _ => .isTrue trivial

instance (system : ControlledList Client) (label : ListStep Client) :
    Decidable (KeepsApart system label) :=
  match label with
  | .read _ _ => .isTrue trivial
  | .finish client refused =>
    inferInstanceAs (Decidable (∀ held ∈ system.pending client,
      system.goesOn held.1 held.2 refused = true →
        WriterKeepsApart held.2 system.apps held.1))

end ControlledList

end SmarTune
