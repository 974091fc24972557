import Pkcs11rs.Analysis.MultipartCrypt
import Pkcs11rs.Analysis.CommandDelivery
import Pkcs11rs.Analysis.HeaderUpdates
import Pkcs11rs.Analysis.RecordStore
import Pkcs11rs.Analysis.BackedKeyMetadata
import Pkcs11rs.Analysis.ObjectSearch
import Pkcs11rs.Analysis.SessionCleanup
import Pkcs11rs.Analysis.SessionRouting
import Pkcs11rs.Analysis.AppletConnector
import Pkcs11rs.Analysis.Scp03Lockstep
import Pkcs11rs.Analysis.UsbTransport
import Pkcs11rs.Analysis.I2cTransport
import Pkcs11rs.Analysis.CallLocks
import Pkcs11rs.Analysis.NativeSessionObjects
import Pkcs11rs.Analysis.DiscoveryCalls
import Pkcs11rs.Analysis.FairQueue
import Pkcs11rs.Analysis.DeviceRegistry
import Pkcs11rs.Analysis.OpaqueStorage
import Pkcs11rs.Analysis.DeviceCipher
import Pkcs11rs.Analysis.CommandChaining
import Pkcs11rs.Analysis.CommandSize
import Pkcs11rs.Analysis.Digest
import Pkcs11rs.Analysis.SessionSecrets
import Pkcs11rs.Analysis.OceChain
import Pkcs11rs.Analysis.AssociatedData
import Pkcs11rs.Analysis.DerOutput
import Pkcs11rs.Analysis.PolicyTemplates
