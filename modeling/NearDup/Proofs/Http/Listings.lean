import NearDup.Proofs.Creation.Listings
import NearDup.Proofs.Http.Effects

/-! What clients are shown of the groups. Main statement: once the creations that were asked for have
ended, the listing of groups shows those with at least two members among the first articles, and of
each such group the listing of articles shows just the first member. -/

namespace NearDup

open Http (Request Response GroupListing ArticleListing)

namespace Http.Request

variable {r : Request}

theorem action_of_get_groups (hmethod : r.method = "GET")
    (hpath : r.path = "/duplicate_groups".toList) : r.action = .ok .listGroups := by
  have hsplit : Text.splitAt '/' (String.ofList r.path) = ["", "duplicate_groups"] := by
    rw [hpath]
    decide
  simp [action, hsplit, reads, hmethod]

theorem action_of_get_articles (hmethod : r.method = "GET")
    (hpath : r.path = "/articles".toList) : r.action = .ok .listArticles := by
  have hsplit := Text.splitAt_eq_articles_iff.mpr hpath
  simp [action, hsplit, reads, hmethod]

end Http.Request

/-- Whether calls of a kind are answered during a visit, and in time. -/
structure Visit.Reaches (v : Visit) (timeout : Nat) (m : Method) : Prop where
  notMem : m ∉ v.failing
  delay_le : (v.delays.lookup m).getD 0 ≤ timeout

namespace App

variable {app : App} {s : Session} {v : Visit}

theorem visit_of_action {action : Http.Action} (haction : v.request.action = .ok action)
    (hmethod : v.request.method = "GET") :
    (app.visit s v).1 = (app.perform (arrive s v) action).1 := by
  simp [visit, answer, haction, hmethod]

/-- A reading call to an idle session is answered by what is stored. -/
theorem askWithin_arrive (hs : s.Idle) {m : Method} {call : Call m} (hm : m.writes = false)
    (hv : v.Reaches app.timeout m) {reply : m.Reply} {store : Store}
    (h : s.connection.storage.backend.store.perform s.connection.storage.limit call =
      .ok (reply, store)) :
    ((arrive s v).askWithin app.timeout call).1 = some (.ok reply) := by
  have hconnection := connection_arrive hs v
  have hdelay : (arrive s v).connection.delay m ≤ app.timeout := by
    rw [hconnection]
    exact hv.delay_le
  rw [(idle_arrive hs v).askWithin_of_le call hdelay, hconnection]
  exact congrArg some (Connection.reply_of_reads _ hm hv.notMem h)

theorem visit_groups (hs : s.Idle) (hmethod : v.request.method = "GET")
    (hpath : v.request.path = "/duplicate_groups".toList)
    (hv : v.Reaches app.timeout .allMemberships) :
    (app.visit s v).1 = ⟨200, some (groupingOf
      (s.connection.storage.backend.store.firstMemberships s.connection.storage.limit))⟩ := by
  have hreply : ((arrive s v).askWithin app.timeout .allMemberships).1 = some (.ok _) :=
    askWithin_arrive hs rfl hv rfl
  exact (visit_of_action (Request.action_of_get_groups hmethod hpath) hmethod).trans
    (congrArg (respond 200 groupingOf) hreply)

theorem visit_articles (hs : s.Idle) (hmethod : v.request.method = "GET")
    (hpath : v.request.path = "/articles".toList)
    (hv : v.Reaches app.timeout .uniqueArticles) :
    (app.visit s v).1 = ⟨200, some (listingOf
      (s.connection.storage.backend.store.uniqueArticles s.connection.storage.limit))⟩ := by
  have hreply : ((arrive s v).askWithin app.timeout .uniqueArticles).1 = some (.ok _) :=
    askWithin_arrive hs rfl hv rfl
  exact (visit_of_action (Request.action_of_get_articles hmethod hpath) hmethod).trans
    (congrArg (respond 200 listingOf) hreply)

/-- After requests to an application with an empty store, and as soon as the creations among them have
ended, none of which failed to store a membership: the listing of groups shows the groups with at
least two members among the first articles, by ascending number, each as the ascending list of these
members. No article is in two of them. Of each group the first member is in the listing of articles,
and no other member is. -/
theorem visit_listings (app : App) (c : Connection) (arrivals : List Arrival)
    (hempty : c.storage.backend.store = .empty)
    (hstored : ∀ record ∈ (Service.createAll app.matcher (acceptedContents arrivals) c).1,
      ∀ x ∈ record.calls, x.method = .createMembership → x.failed = false) :
    let s := (app.serve (.start c) arrivals).2.finish.2
    let store := s.connection.storage.backend.store
    store =
        (Service.createAll app.matcher (acceptedContents arrivals) c).2.storage.backend.store ∧
      (∀ v : Visit, v.request.method = "GET" → v.request.path = "/duplicate_groups".toList →
        v.Reaches app.timeout .allMemberships → (app.visit s v).1 =
          ⟨200, some (GroupListing.mk (store.shownGroups c.storage.limit)).toJson⟩) ∧
      (∀ v : Visit, v.request.method = "GET" → v.request.path = "/articles".toList →
        v.Reaches app.timeout .uniqueArticles → (app.visit s v).1 =
          ⟨200, some (listingOf (store.uniqueArticles c.storage.limit))⟩) ∧
      store.ShowsFounders c.storage.limit := by
  intro s store
  have hconnection : s.connection =
      (Service.createAll app.matcher (acceptedContents arrivals) c).2 := by
    rw [Timeline.settled_eq_finish, settled_serve]
    rfl
  have hidle : s.Idle := Timeline.idle_finish _
  have hlimit : s.connection.storage.limit = c.storage.limit := by
    rw [hconnection, Service.limit_createAll]
  have hstart : c.storage.backend.store = (History.of c.storage.limit []).store := hempty
  obtain ⟨creations, hcreations⟩ :=
    Service.exists_history app.matcher (acceptedContents arrivals) hstart
  have hstore : (History.of c.storage.limit creations).store = store := by
    rw [hcreations, ← hconnection]
  have hkept : ∀ record ∈ (History.of c.storage.limit creations).records,
      record.lostMemberships = [] := by
    rw [hcreations]
    exact fun record hrecord => Record.lostMemberships_eq_nil (hstored record hrecord)
  have hshown := History.shownGroups_of hkept
  have hfounders := (History.grouped_of c.storage.limit creations).showsFounders
    (History.numbered_of c.storage.limit creations) c.storage.limit
  rw [hstore] at hshown hfounders
  refine ⟨congrArg (·.storage.backend.store) hconnection, fun v hmethod hpath hv => ?_,
    fun v hmethod hpath hv => ?_, hfounders⟩
  · rw [visit_groups hidle hmethod hpath hv, hlimit, groupingOf, hshown]
  · rw [visit_articles hidle hmethod hpath hv, hlimit]

/-- Of four articles three are listed. The second comes while the first is being stored. -/
theorem visit_listings_cut_off :
    let post (content : String) : Request := ⟨"POST", "/articles",
      [("content-type", "application/json")],
      Text.encode ("\x7b\"content\":\"" ++ content ++ "\"\x7d")⟩
    let get (path : String) : Request := ⟨"GET", path, [], []⟩
    let app := App.mk (fun _ a _ b => some (a == b)) 20
    let c : Connection := ⟨⟨.memory .empty, .empty, 3⟩, [], [(.createMembership, 15)]⟩
    let s := (app.serve (.start c) [⟨0, post "a", false⟩, ⟨5, post "b", true⟩,
      ⟨0, post "a", true⟩, ⟨0, post "a", true⟩]).2.finish.2
    let store := s.connection.storage.backend.store
    store.articles.values.map (·.group) = [1, 2, 1, 1] ∧
      (app.visit s ⟨0, get "/duplicate_groups", [], [(.allMemberships, 20)]⟩).1 =
        ⟨200, some (GroupListing.mk [[1, 3]]).toJson⟩ ∧
      (app.visit s ⟨5, get "/articles?all", [], []⟩).1 =
        ⟨200, some (ArticleListing.mk [⟨1, "a", []⟩, ⟨2, "b", []⟩]).toJson⟩ ∧
      store.ShowsFounders 3 := by
  intro post get app c
  obtain ⟨-, hgroups, harticles, hfounders⟩ := visit_listings app c
    [⟨0, post "a", false⟩, ⟨5, post "b", true⟩, ⟨0, post "a", true⟩, ⟨0, post "a", true⟩] rfl
    (by decide +kernel)
  refine ⟨by decide +kernel, ?_, ?_, hfounders⟩
  · refine (hgroups _ rfl (by decide) ⟨by decide, by decide⟩).trans ?_
    refine congrArg (fun groups => Response.mk 200 (some (GroupListing.mk groups).toJson)) ?_
    decide +kernel
  · refine (harticles _ rfl (by decide) ⟨by decide, by decide⟩).trans ?_
    refine congrArg (fun listed => Response.mk 200 (some (ArticleListing.mk listed).toJson)) ?_
    decide +kernel

end App

end NearDup
