/-! The templates of JavaScript clients. Templates are given line by line. -/

set_option autoImplicit false

namespace ClientGen.Template.Builtin

def ofLines (lines : List String) : String := String.join (lines.map (· ++ "\n"))

def javascriptClass : String := ofLines [
  "/*jshint esversion: 6 */",
  "/*global fetch, URLSearchParams, btoa */",
  "/**",
  " * \x7b\x7b title \x7d\x7d",
  "\x7b% if version %\x7d",
  " * @version \x7b\x7b version \x7d\x7d",
  "\x7b% endif %\x7d",
  "\x7b% if module_name %\x7d",
  " * @module \x7b\x7b module_name \x7d\x7d",
  "\x7b% endif %\x7d",
  " * @class \x7b\x7b class_name \x7d\x7d",
  " * @param \x7b(string|object)\x7d [domainOrOptions] - The project domain or options object.",
  " * @param \x7bstring\x7d [domainOrOptions.domain] - The project domain",
  "\x7b% if is_secure_token %\x7d",
  " * @param \x7bobject\x7d [domainOrOptions.token] - auth token: \x7b value, headerOrQueryName, isQuery \x7d",
  "\x7b% endif %\x7d",
  "\x7b% if is_secure_api_key %\x7d",
  " * @param \x7bobject\x7d [domainOrOptions.apiKey] - api key: \x7b value, headerOrQueryName, isQuery \x7d",
  "\x7b% endif %\x7d",
  "\x7b% if is_secure_basic %\x7d",
  " * @param \x7bobject\x7d [domainOrOptions.basic] - basic auth credentials: \x7b username, password \x7d",
  "\x7b% endif %\x7d",
  " */",
  "class \x7b\x7b class_name \x7d\x7d \x7b",
  "    constructor(domainOrOptions) \x7b",
  "        const options = (typeof domainOrOptions === 'object' && domainOrOptions !== null) ? domainOrOptions : \x7b\x7d;",
  "        const domain = (typeof domainOrOptions === 'string') ? domainOrOptions : options.domain;",
  "        this.domain = domain ? domain : \x7b\x7b domain | tojson \x7d\x7d;",
  "        if (this.domain.length === 0) \x7b",
  "            throw new Error('Domain parameter must be specified as a string.');",
  "        \x7d",
  "\x7b% if is_secure_token %\x7d",
  "        this.token = options.token || \x7b\x7d;",
  "\x7b% endif %\x7d",
  "\x7b% if is_secure_api_key %\x7d",
  "        this.apiKey = options.apiKey || \x7b\x7d;",
  "\x7b% endif %\x7d",
  "\x7b% if is_secure_basic %\x7d",
  "        this.basic = options.basic || \x7b\x7d;",
  "\x7b% endif %\x7d",
  "    \x7d",
  "",
  "    request(method, url, body, headers, queryParameters, form) \x7b",
  "        const query = new URLSearchParams();",
  "        Object.keys(queryParameters).forEach(function(key) \x7b",
  "            const value = queryParameters[key];",
  "            if (Array.isArray(value)) \x7b",
  "                value.forEach(function(item) \x7b",
  "                    query.append(key, item);",
  "                \x7d);",
  "            \x7d else \x7b",
  "                query.append(key, value);",
  "            \x7d",
  "        \x7d);",
  "        const queryString = query.toString();",
  "        const init = \x7b",
  "            method: method,",
  "            headers: headers",
  "        \x7d;",
  "        if (Object.keys(form).length > 0) \x7b",
  "            init.body = new URLSearchParams(form);",
  "        \x7d else if (body !== undefined) \x7b",
  "            init.body = JSON.stringify(body);",
  "        \x7d",
  "        return fetch(queryString ? url + '?' + queryString : url, init).then(function(response) \x7b",
  "            if (!response.ok) \x7b",
  "                const error = new Error('Request failed with status ' + response.status);",
  "                error.response = response;",
  "                throw error;",
  "            \x7d",
  "            const contentType = response.headers.get('Content-Type') || '';",
  "            return contentType.indexOf('json') !== -1 ? response.json() : response.text();",
  "        \x7d);",
  "    \x7d",
  "\x7b% if is_secure_token %\x7d",
  "",
  "    setToken(value, headerOrQueryName, isQuery) \x7b",
  "        this.token.value = value;",
  "        this.token.headerOrQueryName = headerOrQueryName;",
  "        this.token.isQuery = isQuery;",
  "    \x7d",
  "\x7b% endif %\x7d",
  "\x7b% if is_secure_api_key %\x7d",
  "",
  "    setApiKey(value, headerOrQueryName, isQuery) \x7b",
  "        this.apiKey.value = value;",
  "        this.apiKey.headerOrQueryName = headerOrQueryName;",
  "        this.apiKey.isQuery = isQuery;",
  "    \x7d",
  "\x7b% endif %\x7d",
  "\x7b% if is_secure_basic %\x7d",
  "",
  "    setBasicAuth(username, password) \x7b",
  "        this.basic.username = username;",
  "        this.basic.password = password;",
  "    \x7d",
  "\x7b% endif %\x7d",
  "\x7b% if is_secure %\x7d",
  "",
  "    setAuthHeaders(headers, queryParameters) \x7b",
  "\x7b% if is_secure_token %\x7d",
  "        if (this.token.value) \x7b",
  "            if (this.token.isQuery) \x7b",
  "                queryParameters[this.token.headerOrQueryName] = this.token.value;",
  "            \x7d else if (this.token.headerOrQueryName) \x7b",
  "                headers[this.token.headerOrQueryName] = this.token.value;",
  "            \x7d else \x7b",
  "                headers.Authorization = 'Bearer ' + this.token.value;",
  "            \x7d",
  "        \x7d",
  "\x7b% endif %\x7d",
  "\x7b% if is_secure_api_key %\x7d",
  "        if (this.apiKey.value && this.apiKey.headerOrQueryName) \x7b",
  "            if (this.apiKey.isQuery) \x7b",
  "                queryParameters[this.apiKey.headerOrQueryName] = this.apiKey.value;",
  "            \x7d else \x7b",
  "                headers[this.apiKey.headerOrQueryName] = this.apiKey.value;",
  "            \x7d",
  "        \x7d",
  "\x7b% endif %\x7d",
  "\x7b% if is_secure_basic %\x7d",
  "        if (this.basic.username && this.basic.password) \x7b",
  "            headers.Authorization = 'Basic ' + btoa(this.basic.username + ':' + this.basic.password);",
  "        \x7d",
  "\x7b% endif %\x7d",
  "        return headers;",
  "    \x7d",
  "\x7b% endif %\x7d",
  "\x7b% for method in methods %\x7d",
  "",
  "\x7b% include \"method\" %\x7d",
  "\x7b% endfor %\x7d",
  "\x7d",
  "",
  "export default \x7b\x7b class_name \x7d\x7d;"]

def method : String := ofLines [
  "    /**",
  "     * \x7b\x7b method.summary or method.method_name \x7d\x7d",
  "     * @method",
  "     * @name \x7b\x7b class_name \x7d\x7d#\x7b\x7b method.method_name \x7d\x7d",
  "     * @param \x7bobject\x7d parameters - method options and parameters",
  "\x7b% for parameter in method.parameters %\x7d",
  "     * @param \x7b\x7b '\x7b' \x7d\x7d\x7b\x7b parameter.type or 'object' \x7d\x7d\x7b\x7b '\x7d' \x7d\x7d \x7b% if not parameter.required %\x7d[parameters.\x7b\x7b parameter.camel_case_name \x7d\x7d]\x7b% else %\x7dparameters.\x7b\x7b parameter.camel_case_name \x7d\x7d\x7b% endif %\x7d - \x7b\x7b parameter.description \x7d\x7d",
  "\x7b% endfor %\x7d",
  "\x7b% if method.response_description %\x7d",
  "     * @returns \x7bPromise\x7d \x7b\x7b method.response_description \x7d\x7d",
  "\x7b% endif %\x7d",
  "     */",
  "    \x7b\x7b method.method_name \x7d\x7d(parameters) \x7b",
  "        if (parameters === undefined) \x7b",
  "            parameters = \x7b\x7d;",
  "        \x7d",
  "        let path = \x7b\x7b method.path | tojson \x7d\x7d;",
  "        let body;",
  "        const queryParameters = \x7b\x7d;",
  "        const headers = \x7b\x7d;",
  "        const form = \x7b\x7d;",
  "\x7b% for header in method.headers %\x7d",
  "        headers[\x7b\x7b header.name | tojson \x7d\x7d] = \x7b\x7b header.value \x7d\x7d;",
  "\x7b% endfor %\x7d",
  "\x7b% if method.is_secure and is_secure %\x7d",
  "        this.setAuthHeaders(headers, queryParameters);",
  "\x7b% endif %\x7d",
  "\x7b% for parameter in method.parameters %\x7d",
  "\x7b% set key = parameter.camel_case_name | tojson %\x7d",
  "\x7b% if parameter.is_singleton %\x7d",
  "        parameters[\x7b\x7b key \x7d\x7d] = \x7b\x7b parameter.singleton | tojson \x7d\x7d;",
  "\x7b% endif %\x7d",
  "\x7b% if parameter.required %\x7d",
  "",
  "        if (parameters[\x7b\x7b key \x7d\x7d] === undefined) \x7b",
  "            return Promise.reject(new Error(\x7b\x7b ('Missing required ' ~ parameter.location.value ~ ' parameter: ' ~ parameter.camel_case_name) | tojson \x7d\x7d));",
  "        \x7d",
  "\x7b% endif %\x7d",
  "\x7b% if parameter.is_body_parameter %\x7d",
  "        if (parameters[\x7b\x7b key \x7d\x7d] !== undefined) \x7b",
  "            body = parameters[\x7b\x7b key \x7d\x7d];",
  "        \x7d",
  "\x7b% elif parameter.is_path_parameter %\x7d",
  "        path = path.replace(\x7b\x7b ('\x7b' ~ parameter.name ~ '\x7d') | tojson \x7d\x7d, encodeURIComponent(String(parameters[\x7b\x7b key \x7d\x7d])));",
  "\x7b% elif parameter.is_query_parameter %\x7d",
  "\x7b% if parameter.is_pattern_type %\x7d",
  "        Object.keys(parameters).forEach(function(parameterName) \x7b",
  "            if (new RegExp(\x7b\x7b parameter.pattern | tojson \x7d\x7d).test(parameterName)) \x7b",
  "                queryParameters[parameterName] = parameters[parameterName];",
  "            \x7d",
  "        \x7d);",
  "\x7b% else %\x7d",
  "        if (parameters[\x7b\x7b key \x7d\x7d] !== undefined) \x7b",
  "            queryParameters[\x7b\x7b parameter.name | tojson \x7d\x7d] = parameters[\x7b\x7b key \x7d\x7d];",
  "        \x7d",
  "\x7b% endif %\x7d",
  "\x7b% elif parameter.is_header_parameter %\x7d",
  "        if (parameters[\x7b\x7b key \x7d\x7d] !== undefined) \x7b",
  "            headers[\x7b\x7b parameter.name | tojson \x7d\x7d] = parameters[\x7b\x7b key \x7d\x7d];",
  "        \x7d",
  "\x7b% elif parameter.is_form_parameter %\x7d",
  "        if (parameters[\x7b\x7b key \x7d\x7d] !== undefined) \x7b",
  "            form[\x7b\x7b parameter.name | tojson \x7d\x7d] = parameters[\x7b\x7b key \x7d\x7d];",
  "        \x7d",
  "\x7b% endif %\x7d",
  "\x7b% endfor %\x7d",
  "",
  "        return this.request(\x7b\x7b method.http_verb | tojson \x7d\x7d, this.domain + path, body, headers, queryParameters, form);",
  "    \x7d"]

end ClientGen.Template.Builtin
