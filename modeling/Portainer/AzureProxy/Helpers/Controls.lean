import Portainer.AzureProxy.Model
import Portainer.DockerProxy.Helpers.Controls
/-!
# What the Azure proxy does to resource controls

It creates private ones and deletes them, so an invariant that survives
what the Docker proxy does survives what this one does.
-/

namespace Portainer

namespace AzureProxy

open Json (Object)
open DockerProxy (ControlInvariant Response Local)

variable {I : DataStore → Prop} {t : Transport} {request : Request}

/-- The same invariant, within the proxy. -/
def OnStore (I : DataStore → Prop) (s : ProxyState) : Prop := I s.dataStore

theorem keeps_onDataStore {α : Type} {x : Local α} (hx : x.Keeps I) : (onDataStore x).Keeps (OnStore I) :=
  .zoom hx (fun _ hs => hs) fun _ _ _ hs => hs

theorem keeps_roundTrip : (roundTrip t request).Keeps (OnStore I) :=
  .bind (fun _ => .modify fun _ hs => hs) fun _ => .ofExcept

theorem keeps_createAzureRequestContext : (createAzureRequestContext request).Keeps I :=
  .bind .ofExcept fun _ => .bind .query fun _ => .ite (fun _ => .pure) fun _ => .bind .query fun _ => .pure

theorem keeps_decorateContainerGroup {group : Object} {context : AzureRequestContext} :
    (decorateContainerGroup group context).Keeps I := by
  unfold decorateContainerGroup
  split
  · exact .pure
  · exact .bind DockerProxy.keeps_decorateObject fun _ => .pure

theorem keeps_decorateContainerGroups {context : AzureRequestContext} {groups : List Json} :
    (decorateContainerGroups context groups).Keeps I := by
  induction groups with
  | nil => exact .pure
  | cons group groups ih =>
    exact .bind DockerProxy.keeps_asObject fun _ => .bind keeps_decorateContainerGroup fun _ =>
      .bind ih fun _ => .pure

theorem keeps_removeResourceControl (hI : ControlInvariant I) {group : Object}
    {context : AzureRequestContext} : (removeResourceControl group context).Keeps I := by
  unfold removeResourceControl
  split
  · exact .pure
  · exact .call fun db hdb => hI.delete db _ hdb

theorem keeps_decorateCreation (hI : ControlInvariant I) {response : Response} :
    (decorateCreation request response).Keeps I :=
  .bind DockerProxy.keeps_getResponseAsJSONObject fun _ => .bind .ofExcept fun _ =>
    .bind keeps_createAzureRequestContext fun _ =>
      .bind (DockerProxy.keeps_createResourceControl hI rfl) fun _ =>
        .bind DockerProxy.keeps_decorateObject fun _ => .pure

theorem keeps_proxyContainerGroupRequest (hI : ControlInvariant I) :
    (proxyContainerGroupRequest t request).Keeps (OnStore I) := by
  refine .ite (fun _ => ?_) fun _ => .ite (fun _ => ?_) fun _ => .ite (fun _ => ?_) fun _ => keeps_roundTrip
  · exact .bind keeps_roundTrip fun _ => .ite (fun _ => .pure) fun _ => .bind keeps_roundTrip fun _ =>
      keeps_onDataStore (keeps_decorateCreation hI)
  · refine .bind keeps_roundTrip fun _ => keeps_onDataStore ?_
    exact .bind DockerProxy.keeps_getResponseAsJSONObject fun _ =>
      .bind keeps_createAzureRequestContext fun _ => .bind keeps_decorateContainerGroup fun _ => .pure
  · refine .bind (keeps_onDataStore keeps_createAzureRequestContext) fun context =>
      .ite (fun _ => .bind keeps_roundTrip fun _ => keeps_onDataStore ?_) fun _ => .pure
    exact .bind DockerProxy.keeps_getResponseAsJSONObject fun _ =>
      .bind (.attempt (keeps_removeResourceControl hI)) fun _ => .pure

theorem keeps_decorateList {response : Response} : (decorateList request response).Keeps I := by
  refine .bind DockerProxy.keeps_getResponseAsJSONObject fun object => ?_
  dsimp only
  split
  · exact .bind keeps_createAzureRequestContext fun _ => .bind keeps_decorateContainerGroups fun _ => .pure
  · exact .fail

/-- **A proxied request keeps what survives the two writes.** -/
theorem keeps_proxyAzureRequest (hI : ControlInvariant I) :
    (proxyAzureRequest t request).Keeps (OnStore I) := by
  refine .bind .ofExcept fun _ => .ite (fun _ => ?_) fun _ =>
    .ite (fun _ => keeps_proxyContainerGroupRequest hI) fun _ => keeps_roundTrip
  exact .ite (fun _ => .bind keeps_roundTrip fun _ => keeps_onDataStore keeps_decorateList)
    fun _ => keeps_roundTrip

end AzureProxy

end Portainer
