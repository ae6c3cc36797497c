import BackendComponents.ThreadPool.Shutdown
import BackendComponents.ThreadPool.Bounds
import BackendComponents.ThreadPool.Equivalence
import BackendComponents.ThreadPool.Submission
import BackendComponents.Amqp.Usability
import BackendComponents.Amqp.Routing
import BackendComponents.Amqp.Sharing
import BackendComponents.Ini.Model
import BackendComponents.Ini.Lines
import BackendComponents.Ini.Assignments
import BackendComponents.Ini.RoundTrip
import BackendComponents.Log.Model
import BackendComponents.Log.Rotation
import BackendComponents.Lib.Ownership
import BackendComponents.Sockets.Model
import BackendComponents.Sockets.Ownership
import BackendComponents.RedisPool.Accounting
import BackendComponents.Inventory.Database
import BackendComponents.Inventory.Repository
import BackendComponents.Inventory.Sessions
import BackendComponents.Inventory.Transactions
import BackendComponents.Inventory.Calls
import BackendComponents.Inventory.Discipline
import BackendComponents.Inventory.Overselling
import BackendComponents.Inventory.Agreement
import BackendComponents.Inventory.Borrowing
import BackendComponents.Inventory.Compensation
import BackendComponents.Amqp.Deliveries
import BackendComponents.Amqp.Stopping
import BackendComponents.Lib.Books
import BackendComponents.DatabasePool.Accounting
import BackendComponents.DatabasePool.Lifecycle
import BackendComponents.RedisPool.Lifecycle
import BackendComponents.Pools.Lifecycles
import BackendComponents.Guards.Classes
import BackendComponents.Guards.Losses
import BackendComponents.Lib.LinearGuards
import BackendComponents.Guards.Linear
import BackendComponents.Guards.Exposure
import BackendComponents.Lib.Storage
import BackendComponents.Results.Result
import BackendComponents.Results.VoidResult
import BackendComponents.DatabasePool.Waiting
import BackendComponents.Pools.Waiting
import BackendComponents.DatabasePool.Exhaustion
import BackendComponents.Pools.Exhaustion
import BackendComponents.Lib.Sweeping
import BackendComponents.DatabasePool.Recycling
import BackendComponents.Pools.Recycling
import BackendComponents.RedisPool.Minimum
import BackendComponents.Lib.Histories
import BackendComponents.RedisPool.WaitTimes
import BackendComponents.MySQL.Handles
import BackendComponents.Errors.Values
import BackendComponents.Log.Shutdown
import BackendComponents.Log.Concurrent
import BackendComponents.Amqp.Connections
import BackendComponents.Amqp.Conservation
import BackendComponents.Amqp.Handles
import BackendComponents.Amqp.Restarting
import BackendComponents.Amqp.Topology
import BackendComponents.Inventory.Rollback
import BackendComponents.Inventory.Fallback
import BackendComponents.Inventory.Initialization
import BackendComponents.Lib.DottedDecimal
import BackendComponents.Sockets.Addresses
import BackendComponents.Sockets.Replies
import BackendComponents.Sockets.Encoding
import BackendComponents.Ini.Layout
import BackendComponents.Lib.Linearization
import BackendComponents.Inventory.Atomic
import BackendComponents.Inventory.Progress
import BackendComponents.Inventory.StressTest
import BackendComponents.Inventory.TestCompletion
import BackendComponents.Amqp.Teardown
import BackendComponents.App.Configuration
import BackendComponents.App.Loading
import BackendComponents.App.Storing
import BackendComponents.Inventory.LuaScript
import BackendComponents.Inventory.TextService
import BackendComponents.Errors.Reports
import BackendComponents.ThreadPool.Progress
import BackendComponents.ThreadPool.Draining
import BackendComponents.ThreadPool.Closing
import BackendComponents.ThreadPool.Shrinking
