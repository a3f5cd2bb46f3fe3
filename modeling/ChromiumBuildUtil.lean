import ChromiumBuildUtil.Python
import ChromiumBuildUtil.CheckGnHeaders.NinjaDeps
import ChromiumBuildUtil.CheckGnHeaders.GnProject
import ChromiumBuildUtil.CheckGnHeaders.Reconcile
import ChromiumBuildUtil.BinarySizes.Blobs
import ChromiumBuildUtil.BinarySizes.CommitPosition
import ChromiumBuildUtil.BinarySizes.Apportion
import ChromiumBuildUtil.BinarySizes.Budget
import ChromiumBuildUtil.BinarySizes.Results
