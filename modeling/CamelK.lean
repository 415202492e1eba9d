import CamelK.ApiTypes
import CamelK.ResourceTable
import CamelK.ClusterStore
import CamelK.ClientProgram
import CamelK.InitializeAction
import CamelK.BuildAction
import CamelK.Reconcile
import CamelK.PassEffects
import CamelK.PassOutcomes
import CamelK.KitLifecycle
import CamelK.KitStatus
import CamelK.BuildSafety
import CamelK.IntegrationFanOut
import CamelK.ErrorPaths
import CamelK.OptimisticConcurrency
import CamelK.Progress
import CamelK.Liveness
import CamelK.KitIsolation
import CamelK.ServedPasses
import CamelK.KitProtocol
