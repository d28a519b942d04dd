import GameFleet.Store.Access
import Mathlib.Tactic.Common

/-!
# Instances kept as rows (specification §2, persistence)

The columns of a row may be absent independently of each other; the addresses and passwords of an
instance come and go together. Nothing of an instance is lost on the way into its row and back, and
nothing of a promotion is lost when the row that is there is only replaced in part.

- `Endpoint.Fits`, `Instance.PortsFit`: ports have 16 bits.
- `Store.read_toRow_iff`: an instance is read back from its row exactly if its ports have.
- `Store.TableSchema.replaced`: what is left of a row where another with its key was inserted.
- `Store.params_overwritten`, `Store.params_injective`: it is `InstanceRow.overwritten`, and no
  other row has its values.
- `Instance.rewritten`, `Store.overwritten_toRow`: which fields of an instance writing it again
  changes.
- `Store.rows_lossless`: the theorem, and `Store.column_needed`: no column can be left out.
-/

namespace GameFleet

/-! ### Ports of 16 bits -/

/-- The port of an address has 16 bits. -/
def Endpoint.Fits (e : Endpoint) : Prop := e.port ≤ Text.maxWord16

/-- The addresses where the parts of an instance are reached. -/
def Endpoints.addresses (e : Endpoints) : List Endpoint := e.game :: e.console :: e.spectator.toList

/-- The ports of an instance, as far as it has addresses, have 16 bits. -/
def Instance.PortsFit (i : Instance) : Prop :=
  ∀ e ∈ i.endpoints, ∀ a ∈ e.addresses, a.Fits

/-- A status is read back from its name. -/
@[simp] theorem Status.read?_text (s : Status) : read? s.text = some s := by
  cases s <;> decide

namespace Store

variable {e : Endpoint} {es : Endpoints} {i : Instance} {now : Timestamp}

/-- An address is read back from its columns exactly if its port has 16 bits. -/
theorem endpoint?_columns_iff (e : Endpoint) :
    endpoint? (some e.host) (some (e.port : Int)) = some e ↔ e.Fits := by
  rcases e with ⟨host, port⟩
  show (if 0 ≤ (port : Int) ∧ (port : Int) ≤ Text.maxWord16 then some (Endpoint.mk host port)
    else none) = some ⟨host, port⟩ ↔ port ≤ Text.maxWord16
  constructor
  · intro h
    by_contra hport
    rw [if_neg (by omega)] at h
    cases h
  · intro h
    rw [if_pos (by omega)]

/-- Whatever columns an address is read from, its port has 16 bits. -/
theorem fits_of_endpoint? {host : Option String} {port : Option Int}
    (h : endpoint? host port = some e) : e.Fits := by
  rcases host with _ | host
  · cases h
  rcases port with _ | port
  · cases h
  simp only [endpoint?, Option.bind_eq_bind, Option.bind_some] at h
  split at h
  · cases h
    show port.toNat ≤ Text.maxWord16
    omega
  · cases h

/-- The address of the spectators is read back from its columns, also when there is none. -/
theorem endpoint?_columns_of_option (s : Option Endpoint) (h : ∀ e ∈ s, e.Fits) :
    endpoint? (s.map (·.host)) (s.map fun e => (e.port : Int)) = s := by
  rcases s with _ | e
  · rfl
  · exact (endpoint?_columns_iff e).mpr (h e rfl)

/-! ### Into a row and back -/

/-- Passwords are read back, whether there is one for spectators or not. -/
@[simp] theorem credentials?_toRow (i : Instance) (now : Timestamp) :
    (i.toRow now).credentials? = i.credentials := by
  unfold InstanceRow.credentials? Instance.toRow
  rcases i.credentials with _ | ⟨server, console, spectator⟩ <;> rfl

/-- What is read from the row of an instance differs from it at most in its addresses. -/
theorem read_toRow (i : Instance) (now : Timestamp) :
    (i.toRow now).read = .ok { i with endpoints := (i.toRow now).endpoints? } := by
  unfold InstanceRow.read
  rw [credentials?_toRow]
  simp only [Instance.toRow, Status.read?_text]

/-- The addresses in the row of an instance that has some. -/
theorem endpoints?_toRow (h : i.endpoints = some es) : (i.toRow now).endpoints? = (do
    let game ← endpoint? (some es.game.host) (some (es.game.port : Int))
    let console ← endpoint? (some es.console.host) (some (es.console.port : Int))
    return ⟨game, endpoint? (es.spectator.map (·.host)) (es.spectator.map fun e => (e.port : Int)),
      console⟩) := by
  simp only [InstanceRow.endpoints?, Instance.toRow, h, Option.map_some, Option.bind_some]

/-- The ports of addresses that are read from a row have 16 bits. -/
theorem fits_of_endpoints? {r : InstanceRow} (h : r.endpoints? = some es) :
    ∀ a ∈ es.addresses, a.Fits := by
  unfold InstanceRow.endpoints? at h
  obtain ⟨game, hgame, h⟩ := Option.bind_eq_some_iff.mp h
  obtain ⟨console, hconsole, h⟩ := Option.bind_eq_some_iff.mp h
  cases h
  intro a ha
  rcases List.mem_cons.mp ha with rfl | ha
  · exact fits_of_endpoint? hgame
  rcases List.mem_cons.mp ha with rfl | ha
  · exact fits_of_endpoint? hconsole
  · exact fits_of_endpoint? (Option.mem_toList.mp ha)

/-- Addresses are read back exactly if their ports have 16 bits. -/
theorem endpoints?_toRow_iff (i : Instance) (now : Timestamp) :
    (i.toRow now).endpoints? = i.endpoints ↔ i.PortsFit := by
  cases hes : i.endpoints with
  | none =>
    have hfit : i.PortsFit := by
      intro e he
      rw [hes] at he
      cases he
    refine iff_of_true ?_ hfit
    simp [InstanceRow.endpoints?, Instance.toRow, hes, endpoint?]
  | some es =>
    constructor
    · intro h e he
      rw [hes] at he
      cases he
      exact fits_of_endpoints? h
    · intro hfit
      have hall : ∀ a ∈ es.addresses, a.Fits := hfit es hes
      have hgame := (endpoint?_columns_iff es.game).mpr (hall _ (by simp [Endpoints.addresses]))
      have hconsole :=
        (endpoint?_columns_iff es.console).mpr (hall _ (by simp [Endpoints.addresses]))
      have hspectator := endpoint?_columns_of_option es.spectator fun e he =>
        hall e (by simp [Endpoints.addresses, Option.mem_def.mp he])
      rw [endpoints?_toRow hes, hgame, hconsole, hspectator]
      rfl

/-- An instance is read back from its row exactly if its ports have 16 bits. -/
theorem read_toRow_iff (i : Instance) (now : Timestamp) :
    (i.toRow now).read = .ok i ↔ i.PortsFit := by
  rw [read_toRow, ← endpoints?_toRow_iff i now]
  constructor
  · intro h
    exact congrArg Instance.endpoints (Except.ok.inj h)
  · intro h
    rw [h]

/-! ### A row with the key is there -/

/-- What is left in a table where a row with the key of an inserted one was: the columns named hold
the values that were inserted, the others those that were there. -/
def TableSchema.replaced (t : TableSchema) (columns : List String) (old new : List Param) :
    List Param :=
  (t.columns.zip (old.zip new)).map fun (c, before, inserted) =>
    if columns.contains c.name then inserted else before

/-- The value that names a row. -/
def TableSchema.keyOf? (t : TableSchema) (row : List Param) : Option Param :=
  ((t.columns.zip row).find? (·.1.key)).map (·.2)

/-- Replacing columns of a row replaces its values. -/
theorem params_overwritten (columns : List String) (old new : InstanceRow) :
    (old.overwritten columns new).params =
      Schema.instances.replaced columns old.params new.params := by
  -- Both sides choose, column by column, between the two rows.
  have pick (name : String) (value : InstanceRow → Param) :
      value (if columns.contains name then new else old) =
        if columns.contains name then value new else value old :=
    apply_ite value _ _ _
  simp only [TableSchema.replaced, Schema.instances, InstanceRow.params, List.zip_cons_cons,
    List.zip_nil_right, List.map_cons, List.map_nil, List.cons.injEq, and_true]
  exact ⟨pick _ fun r => .uuid r.id, pick _ fun r => .text r.owner, pick _ fun r => .text r.status,
    pick _ fun r => .text r.region, pick _ fun r => .text r.variant, pick _ fun r => .text? r.guild,
    pick _ fun r => .text? r.gameHost, pick _ fun r => .whole? r.gamePort,
    pick _ fun r => .text? r.spectatorHost, pick _ fun r => .whole? r.spectatorPort,
    pick _ fun r => .text? r.consoleHost, pick _ fun r => .whole? r.consolePort,
    pick _ fun r => .text? r.serverPassword, pick _ fun r => .text? r.consolePassword,
    pick _ fun r => .text? r.spectatorPassword, pick _ fun r => .moment r.createdAt,
    pick _ fun r => .moment r.updatedAt⟩

/-- A row is known by its values. -/
theorem params_injective : Function.Injective InstanceRow.params := by
  have text? : Function.Injective Param.text? := by
    rintro (_ | _) (_ | _) h <;> cases h <;> rfl
  have whole? : Function.Injective Param.whole? := by
    rintro (_ | _) (_ | _) h <;> cases h <;> rfl
  intro r r' h
  simp only [InstanceRow.params, List.cons.injEq, Param.uuid.injEq, Param.text.injEq,
    Param.moment.injEq, text?.eq_iff, whole?.eq_iff, and_true] at h
  cases r
  cases r'
  simpa only [InstanceRow.mk.injEq] using h

end Store

/-- An instance whose row is written again with what another instance holds: the status, the
addresses and the passwords are those of the other. -/
def Instance.rewritten (i j : Instance) : Instance :=
  { i with status := j.status, endpoints := j.endpoints, credentials := j.credentials }

/-- A promotion changes nothing else. -/
@[simp] theorem Instance.rewritten_promoted (i : Instance) (d : Deployment) :
    i.rewritten (i.promoted d) = i.promoted d := rfl

namespace Store

variable {i p : Instance} {r : InstanceRow}

/-- The columns that stay when a row is written again are those of an instance. -/
structure InstanceRow.KeepsFor (r : InstanceRow) (i : Instance) : Prop where
  id : r.id = i.id.uuid
  owner : r.owner = i.owner.text
  region : r.region = i.region
  variant : r.variant = i.variant
  guild : r.guild = i.guild
  createdAt : r.createdAt = i.createdAt

theorem keepsFor_toRow (i : Instance) (now : Timestamp) : (i.toRow now).KeepsFor i :=
  ⟨rfl, rfl, rfl, rfl, rfl, rfl⟩

/-- The columns that are replaced are all those in which the row of the other instance may differ:
what is left is a row as it is written for an instance. -/
theorem overwritten_toRow (h : r.KeepsFor i) (j : Instance) (later : Timestamp) :
    r.overwritten Schema.instanceReplaced (j.toRow later) = (i.rewritten j).toRow later := by
  rcases h with ⟨hid, howner, hregion, hvariant, hguild, hcreated⟩
  simp [InstanceRow.overwritten, Schema.instanceReplaced, Instance.toRow, Instance.rewritten,
    hid, howner, hregion, hvariant, hguild, hcreated]

/-- None of the columns that are replaced can be left out, up to the moment of writing: a promotion
would be lost in part. -/
theorem column_needed : ∃ (p : Instance) (d : Deployment) (written later : Timestamp),
    ∀ c ∈ Schema.instanceReplaced, c ≠ "updated_at" →
      ((p.toRow written).overwritten (Schema.instanceReplaced.erase c)
        ((p.promoted d).toRow later)).read ≠ .ok (p.promoted d) := by
  refine ⟨.pending default ⟨"owner"⟩ "region" "variant" none default,
    ⟨⟨⟨"host", 1⟩, some ⟨"host", 2⟩, ⟨"host", 3⟩⟩, ⟨"server", "console", some "spectator"⟩⟩,
    default, default, ?_⟩
  decide +kernel

/-- Rows lose nothing. An instance, with whichever of its optional parts, is read back from its row:
exactly if its ports have 16 bits. And where a promoted instance is inserted into a table that has
the row of the instance before its promotion, both have one key, one row is what is left there, and
the promoted instance is read back from it: again exactly if its ports have 16 bits. -/
theorem rows_lossless :
    (∀ (i : Instance) (now : Timestamp), (i.toRow now).read = .ok i ↔ i.PortsFit) ∧
    ∀ (p : Instance) (d : Deployment) (written later : Timestamp),
      ∃ (s : Statement) (next : _) (r : InstanceRow),
        (upsertInstance later (p.promoted d)).run = .ask (.write s) next ∧
        s = Schema.instances.insertion ((p.promoted d).toRow later).params
          Schema.instanceReplaced ∧
        Schema.instances.keyOf? s.params = Schema.instances.keyOf? (p.toRow written).params ∧
        (∀ r' : InstanceRow, r'.params =
            Schema.instances.replaced Schema.instanceReplaced (p.toRow written).params s.params ↔
          r' = r) ∧
        (r.read = .ok (p.promoted d) ↔ (p.promoted d).PortsFit) := by
  refine ⟨read_toRow_iff, fun p d written later => ?_⟩
  have hrow : (p.toRow written).overwritten Schema.instanceReplaced
      ((p.promoted d).toRow later) = (p.promoted d).toRow later := by
    rw [overwritten_toRow (keepsFor_toRow p written), Instance.rewritten_promoted]
  refine ⟨_, _, (p.promoted d).toRow later, rfl, rfl, rfl, fun r' => ?_, read_toRow_iff _ later⟩
  show r'.params = Schema.instances.replaced Schema.instanceReplaced (p.toRow written).params
    ((p.promoted d).toRow later).params ↔ _
  rw [← params_overwritten, hrow]
  exact params_injective.eq_iff

end Store

end GameFleet
