import StsGateway.Gateway.Consistency
import StsGateway.Gateway.Retention
import StsGateway.Gateway.TableShape
import StsGateway.Gateway.Settling
import StsGateway.Gateway.Channels
import StsGateway.Gateway.System
import StsGateway.Gateway.Configured
import StsGateway.Gateway.Restarts
import StsGateway.Channels.Modbus.Assembly
import StsGateway.Channels.Modbus.Decoding
import StsGateway.Channels.Modbus.Report
import StsGateway.Channels.Modbus.TcpReport
import StsGateway.Channels.Modbus.Copies
import StsGateway.Storage.Maintenance
import StsGateway.Backup.Cleanup
import StsGateway.Backup.Interleaving
import StsGateway.Backup.Ttl
import StsGateway.Startup.AllOrNothing
import StsGateway.Startup.Hashes
import StsGateway.Gateway.Refinement
import StsGateway.Backup.Refinement
import StsGateway.Backup.Durability
import StsGateway.Gateway.ThreadShape
