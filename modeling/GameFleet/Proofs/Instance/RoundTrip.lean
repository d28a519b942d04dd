import GameFleet.Proofs.Json.Records
import GameFleet.Proofs.Store.Rows
import GameFleet.Proofs.Time.Written
import GameFleet.Termination

/-!
# Records come back as they were written (specification §3)

What the fleet keeps and passes on as JSON is read back as it was: instances, deployments, activity,
events, and the orders to remove an instance. Whatever is read from any text at all can be written,
and is read back the same.

- `Endpoints.PortsFit`, `Deployment.PortsFit`: ports have 16 bits, as `Instance.PortsFit` says of an
  instance.
- `Instance.Timely`, `Activity.Timely`, `Event.Timely`: times are of the years 0 to 9999, outside
  leap seconds.
- `Instance.reads` and others: each record is read from what was written.
- `Instance.decoder_yields` and others: only such ports are read.
- `Json.RoundTrips`: what coming back means; `records_roundTrip`: they all do.
-/

namespace GameFleet

open Json

namespace InstanceId

theorem reads (id : InstanceId) : decoder.Reads id.toJson id :=
  (Decoder.Reads.parsed (Uuid.read?_text id.uuid)).map InstanceId.mk

theorem isIntegral_toJson (id : InstanceId) : id.toJson.IsIntegral := trivial

end InstanceId

namespace OwnerId

theorem reads (o : OwnerId) : decoder.Reads o.toJson o :=
  (Decoder.Reads.string o.text).map OwnerId.mk

theorem isIntegral_toJson (o : OwnerId) : o.toJson.IsIntegral := trivial

end OwnerId

namespace Status

theorem reads (s : Status) : decoder.Reads s.toJson s := .choice (by cases s <;> rfl)

theorem isIntegral_toJson (s : Status) : s.toJson.IsIntegral := trivial

end Status

namespace Timestamp

theorem reads {t : Timestamp} (h : t.IsCommon) : Decoder.timestamp.Reads t.toJson t :=
  .parsed (read?_text h)

theorem isIntegral_toJson (t : Timestamp) : t.toJson.IsIntegral := trivial

end Timestamp

/-! ## Where an instance is reached -/

namespace Endpoint

theorem reads {e : Endpoint} (h : e.Fits) : decoder.Reads e.toJson e := by
  obtain ⟨host, port⟩ := e
  have hport : (Decoder.natural Text.maxWord16).Reads (.nat port) port :=
    .natural h (by decide)
  refine Shape.Reads.decode (s := shape) (by simp) ?_
  refine .seq ?_ (.required (by simp) hport)
  exact .map Endpoint.mk (.required (by simp) (.string host))

theorem isIntegral_toJson (e : Endpoint) : e.toJson.IsIntegral :=
  Value.isIntegral_record (by simp [Value.IsIntegral, Value.nat, Value.int])

theorem decoder_yields : decoder.Yields Fits := by
  refine Shape.Yields.decode (s := shape) ?_
  refine .seq (.mapAny ?_) (.required (Decoder.natural_yields _))
  intro host port hport
  exact hport

end Endpoint

namespace Endpoints

/-- The ports of the addresses have 16 bits. -/
def PortsFit (e : Endpoints) : Prop := ∀ a ∈ e.addresses, a.Fits

theorem portsFit_iff {e : Endpoints} :
    e.PortsFit ↔ e.game.Fits ∧ e.console.Fits ∧ ∀ s, e.spectator = some s → s.Fits := by
  simp [PortsFit, addresses]

theorem reads {e : Endpoints} (h : e.PortsFit) : decoder.Reads e.toJson e := by
  obtain ⟨game, spectator, console⟩ := e
  obtain ⟨hgame, hconsole, hspectator⟩ := portsFit_iff.mp h
  have hopt : Endpoint.decoder.optional.Reads (.opt Endpoint.toJson spectator) spectator :=
    .opt _ (fun s hs => Endpoint.reads (hspectator s hs)) nofun
  refine Shape.Reads.decode (s := shape) (by simp) ?_
  refine .seq ?_ (.required (by simp) (Endpoint.reads hconsole))
  refine .seq ?_ (.optional (by simp) hopt)
  exact .map Endpoints.mk (.required (by simp) (Endpoint.reads hgame))

theorem isIntegral_toJson (e : Endpoints) : e.toJson.IsIntegral := by
  refine Value.isIntegral_record ?_
  simp [Endpoint.isIntegral_toJson, Value.isIntegral_opt]

theorem decoder_yields : decoder.Yields PortsFit := by
  refine Shape.Yields.decode (s := shape) ?_
  refine .seq ?_ (.required Endpoint.decoder_yields)
  refine .seq ?_ (.optional Endpoint.decoder_yields)
  refine .map (.required Endpoint.decoder_yields) ?_
  intro game hgame spectator hspectator console hconsole
  exact portsFit_iff.mpr ⟨hgame, hconsole, hspectator⟩

end Endpoints

namespace Credentials

theorem reads (c : Credentials) : decoder.Reads c.toJson c := by
  obtain ⟨server, console, spectator⟩ := c
  refine Shape.Reads.decode (s := shape) (by simp) ?_
  refine .seq ?_ (.optional (by simp) (.text? spectator))
  refine .seq ?_ (.required (by simp) (.string console))
  exact .map Credentials.mk (.required (by simp) (.string server))

theorem isIntegral_toJson (c : Credentials) : c.toJson.IsIntegral := by
  refine Value.isIntegral_record ?_
  simp [Value.IsIntegral, Value.isIntegral_text?]

end Credentials

/-! ## Deployments and instances -/

namespace Deployment

/-- The ports of the addresses have 16 bits. -/
def PortsFit (d : Deployment) : Prop := d.endpoints.PortsFit

theorem reads {d : Deployment} (h : d.PortsFit) : decoder.Reads d.toJson d := by
  obtain ⟨endpoints, credentials⟩ := d
  refine Shape.Reads.decode (s := shape) (by simp) ?_
  refine .seq ?_ (.required (by simp) credentials.reads)
  exact .map Deployment.mk (.required (by simp) (Endpoints.reads h))

theorem isIntegral_toJson (d : Deployment) : d.toJson.IsIntegral := by
  refine Value.isIntegral_record ?_
  simp [Endpoints.isIntegral_toJson, Credentials.isIntegral_toJson]

theorem decoder_yields : decoder.Yields PortsFit := by
  refine Shape.Yields.decode (s := shape) ?_
  refine .seqAny (.map (.required Endpoints.decoder_yields) ?_)
  intro endpoints hendpoints credentials
  exact hendpoints

end Deployment

namespace Instance

/-- The instance was reserved at a common time. -/
def Timely (i : Instance) : Prop := i.createdAt.IsCommon

theorem reads {i : Instance} (h : i.PortsFit) (htime : i.Timely) : decoder.Reads i.toJson i := by
  obtain ⟨id, owner, status, region, variant, guild, endpoints, credentials, createdAt⟩ := i
  have hendpoints : Endpoints.decoder.optional.Reads (.opt Endpoints.toJson endpoints)
      endpoints :=
    .opt _ (fun e he => Endpoints.reads (h e he)) nofun
  have hcredentials : Credentials.decoder.optional.Reads (.opt Credentials.toJson credentials)
      credentials :=
    .opt _ (fun c _ => c.reads) nofun
  have hcreated : Decoder.timestamp.Reads createdAt.toJson createdAt := Timestamp.reads htime
  -- The last field is the outermost one.
  refine Shape.Reads.decode (s := shape) (by simp) ?_
  refine .seq ?_ (.required (by simp) hcreated)
  refine .seq ?_ (.optional (by simp) hcredentials)
  refine .seq ?_ (.optional (by simp) hendpoints)
  refine .seq ?_ (.optional (by simp) (.text? guild))
  refine .seq ?_ (.required (by simp) (.string variant))
  refine .seq ?_ (.required (by simp) (.string region))
  refine .seq ?_ (.required (by simp) status.reads)
  refine .seq ?_ (.required (by simp) owner.reads)
  exact .map Instance.mk (.required (by simp) id.reads)

theorem isIntegral_toJson (i : Instance) : i.toJson.IsIntegral := by
  refine Value.isIntegral_record ?_
  simp [Value.IsIntegral, Value.isIntegral_text?, Value.isIntegral_opt,
    InstanceId.isIntegral_toJson, OwnerId.isIntegral_toJson, Status.isIntegral_toJson,
    Endpoints.isIntegral_toJson, Credentials.isIntegral_toJson, Timestamp.isIntegral_toJson]

theorem decoder_yields : decoder.Yields PortsFit := by
  refine Shape.Yields.decode (s := shape) ?_
  -- The time and the passwords are read after the addresses, everything else before them.
  refine .seqAny (.seqAny ?_)
  refine .seq ?_ (.optional Endpoints.decoder_yields)
  iterate 5 refine .seqAny ?_
  refine .mapAny ?_
  intro id owner status region variant guild endpoints hendpoints credentials createdAt
  exact hendpoints

end Instance

/-! ## Activity, events and orders -/

namespace Activity

/-- All times are common ones. -/
structure Timely (a : Activity) : Prop where
  emptySince : ∀ t, a.emptySince = some t → t.IsCommon
  checkedAt : a.checkedAt.IsCommon

theorem reads {a : Activity} (h : a.Timely) : decoder.Reads a.toJson a := by
  obtain ⟨server, emptySince, checkedAt⟩ := a
  have hempty : Decoder.timestamp.optional.Reads (.opt Timestamp.toJson emptySince)
      emptySince :=
    .opt _ (fun t ht => Timestamp.reads (h.emptySince t ht)) nofun
  refine Shape.Reads.decode (s := shape) (by simp) ?_
  refine .seq ?_ (.required (by simp) (Timestamp.reads h.checkedAt))
  refine .seq ?_ (.optional (by simp) hempty)
  exact .map Activity.mk (.required (by simp) server.reads)

theorem isIntegral_toJson (a : Activity) : a.toJson.IsIntegral := by
  refine Value.isIntegral_record ?_
  simp [Value.isIntegral_opt, InstanceId.isIntegral_toJson, Timestamp.isIntegral_toJson]

end Activity

namespace Event

/-- The event happened at a common time. -/
def Timely (e : Event) : Prop := e.createdAt.IsCommon

theorem reads {e : Event} (h : e.Timely) : decoder.Reads e.toJson e := by
  obtain ⟨message, actor, createdAt⟩ := e
  refine Shape.Reads.decode (s := shape) (by simp) ?_
  refine .seq ?_ (.required (by simp) (Timestamp.reads h))
  refine .seq ?_ (.required (by simp) (.string actor))
  exact .map Event.mk (.required (by simp) (.string message))

theorem isIntegral_toJson (e : Event) : e.toJson.IsIntegral := by
  refine Value.isIntegral_record ?_
  simp [Value.IsIntegral, Timestamp.isIntegral_toJson]

end Event

namespace DeletionOrder

theorem reads (d : DeletionOrder) : decoder.Reads d.toJson d := by
  obtain ⟨id, reason⟩ := d
  refine Shape.Reads.decode (s := shape) (by simp) ?_
  refine .seq ?_ (.defaulted (by simp) (.text? reason))
  exact .map DeletionOrder.mk (.required (by simp) id.reads)

theorem isIntegral_toJson (d : DeletionOrder) : d.toJson.IsIntegral := by
  refine Value.isIntegral_record ?_
  simp [Value.isIntegral_text?, InstanceId.isIntegral_toJson]

end DeletionOrder

/-! ## Coming back -/

/-- What is written comes back as it was. Members may be written in any order, and are read from the
text as well as from the value itself. Whatever is read from any text can be written, and comes back
the same. Of what is written it is asked that its ports fit and its times are common; of what is
read only that its times are. -/
structure Json.RoundTrips {α : Type} (write : α → Value) (read : Decoder α)
    (fits timely : α → Prop) : Prop where
  written : ∀ a, fits a → timely a → ∀ u, (write a).Reordered u →
    decode? read u.text = some a ∧ read (.ofValue u) = .ok a
  again : ∀ text a, decode? read text = some a → timely a → ∀ u, (write a).Reordered u →
    decode? read u.text = some a

/-- Records come back that are found in what was written, and whose ports fit whenever they are
read. -/
theorem Json.RoundTrips.of_reads {α : Type} {write : α → Value} {read : Decoder α}
    {fits timely : α → Prop} (hreads : ∀ a, fits a → timely a → read.Reads (write a) a)
    (hintegral : ∀ a, (write a).IsIntegral) (hyields : read.Yields fits) :
    RoundTrips write read fits timely where
  written a hfits htimely u hu :=
    ⟨(hreads a hfits htimely).decode? (hintegral a) hu, hreads a hfits htimely u hu⟩
  again _ a ha htimely _ hu :=
    (hreads a (hyields.of_decode? ha) htimely).decode? (hintegral a) hu

/-- All records of the fleet come back. -/
theorem records_roundTrip :
    RoundTrips Instance.toJson Instance.decoder Instance.PortsFit Instance.Timely ∧
    RoundTrips Deployment.toJson Deployment.decoder Deployment.PortsFit (fun _ => True) ∧
    RoundTrips Activity.toJson Activity.decoder (fun _ => True) Activity.Timely ∧
    RoundTrips Event.toJson Event.decoder (fun _ => True) Event.Timely ∧
    RoundTrips DeletionOrder.toJson DeletionOrder.decoder (fun _ => True) (fun _ => True) :=
  ⟨.of_reads (fun _ => Instance.reads) Instance.isIntegral_toJson Instance.decoder_yields,
    .of_reads (fun _ h _ => Deployment.reads h) Deployment.isIntegral_toJson
      Deployment.decoder_yields,
    .of_reads (fun _ _ => Activity.reads) Activity.isIntegral_toJson fun _ _ _ => trivial,
    .of_reads (fun _ _ => Event.reads) Event.isIntegral_toJson fun _ _ _ => trivial,
    .of_reads (fun d _ _ => d.reads) DeletionOrder.isIntegral_toJson fun _ _ _ => trivial⟩

/-- An event comes back from a text with its members in another order. -/
theorem records_roundTrip_event :
    let e : Event := ⟨"He said \"stop\".\n", "7", ⟨-1, 500000⟩⟩
    decode? Event.decoder (Value.object [("message", .string e.message),
      ("actor_id", .string e.actor), ("created_at", e.createdAt.toJson)]).text = some e :=
  (records_roundTrip.2.2.2.1.written ⟨"He said \"stop\".\n", "7", ⟨-1, 500000⟩⟩ trivial
    ⟨by decide, by decide, by decide⟩ _
    (.object (.refl _) (Table.perm_ofList (by simp)))).1

end GameFleet
